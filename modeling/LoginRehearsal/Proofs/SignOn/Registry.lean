import LoginRehearsal.Proofs.SignOn.Session

/-!
# What is registered

The daemon keeps identities and objects apart: an object only names its identity. Since identities are never
taken away, no object of an identity and no session of one is ever left without it. So the methods of identities,
which look up the object first and the identity then, find both.

* `Daemon.Placed`: what may stand under a path.
* `Daemon.Registry`: every object stands under a path of its own kind and names a known identity.
* `Daemon.registry_run`: it does after any run.
* `Daemon.run_registry`: the objects after a run, number by number, and the faults that no call on an identity
  meets.
-/
namespace LoginRehearsal

/-! ## Faults apart -/

namespace BusFault

/-- The messages of two faults of one name differ in their fourth character. -/
theorem unknownMethod_ne_noIdentityAt (path interface method at' : String) :
    unknownMethod path interface method ≠ noIdentityAt at' := by
  intro h
  have hmessage := congrArg (fun f : BusFault => f.message.toList[3]?) h
  simp [unknownMethod, noIdentityAt, toString] at hmessage

theorem unknownMethod_ne_identityNotFound (path interface method : String) :
    unknownMethod path interface method ≠ identityNotFound := fun h =>
  absurd (congrArg BusFault.name h) (by decide : unknownMethodName ≠ identityNotFound.name)

theorem unknownMethod_ne_invalidArgs (path interface method message : String) :
    unknownMethod path interface method ≠ invalidArgs message := fun h =>
  absurd (congrArg BusFault.name h) (by decide : unknownMethodName ≠ (invalidArgs "").name)

theorem invalidArgs_ne_noIdentityAt (message at' : String) : invalidArgs message ≠ noIdentityAt at' := fun h =>
  absurd (congrArg BusFault.name h) (by decide : (invalidArgs "").name ≠ unknownMethodName)

theorem invalidArgs_ne_identityNotFound (message : String) : invalidArgs message ≠ identityNotFound := fun h =>
  absurd (congrArg BusFault.name h) (by decide : (invalidArgs "").name ≠ identityNotFound.name)

end BusFault

/-- A dictionary that is missing, or is none, is a fault of the arguments. -/
theorem Arguments.dictionary_error {args : List Json} {index : Nat} {fault : BusFault}
    (h : dictionary args index = .error fault) :
    fault = .invalidArgs s!"Missing argument {decimal index}" ∨
      fault = .invalidArgs s!"Argument {decimal index} must be a dictionary" := by
  unfold dictionary at? at h
  cases hv : args[index]? with
  | none =>
    rw [hv] at h
    exact .inl (Except.error.inj h).symm
  | some v =>
    rw [hv] at h
    cases v with
    | obj members => cases h
    | null | bool | int | float | str | arr => exact .inr (Except.error.inj h).symm

namespace Daemon

variable {d d' : Daemon} {q : Request} {path interface method : String} {args : List Json} {m : BusMethod}
  {o : BusObject} {id : Nat} {y : Except BusFault Reply × Daemon}

/-! ## Places -/

/-- An identity has been added. -/
def Knows (d : Daemon) (id : Nat) : Prop := Keyed.get? d.identities id ≠ none

/-- The object that may stand under a path: the service under its own one, an identity or a session under one of
its kind. A session without an identity has the number zero for it. -/
inductive Placed (d : Daemon) : String → BusObject → Prop
  | service : Placed d Bus.mainObject .service
  | identity {id : Nat} (h : d.Knows id) : Placed d (Bus.identityPath id) (.identity id)
  | session {n : Nat} {s : AuthSession} (h : s.identity = 0 ∨ d.Knows s.identity) :
      Placed d (Bus.sessionPath n) (.session s)

theorem Placed.mono (h : d.Placed path o) (hk : ∀ id, d.Knows id → d'.Knows id) : d'.Placed path o := by
  cases h with
  | service => exact .service
  | identity h => exact .identity (hk _ h)
  | session h => exact .session (h.imp_right (hk _))

/-- The service stands under its path, and every object under a path where it may stand. -/
structure Registry (d : Daemon) : Prop where
  service : Keyed.get? d.objects Bus.mainObject = some .service
  placed : ∀ {path o}, Keyed.get? d.objects path = some o → d.Placed path o

theorem registry_initial : initial.Registry where
  service := rfl
  placed := by
    intro path o h
    simp only [initial, Keyed.get?_cons, Keyed.get?_nil] at h
    split at h
    · next hpath =>
      cases h
      rw [← hpath]
      exact .service
    · cases h

theorem Knows.addIdentity (h : d.Knows id) (added : Nat) (info : Info) : (d.addIdentity added info).Knows id := by
  unfold Knows Daemon.addIdentity at *
  rw [Keyed.get?_insert]
  split
  · exact Option.some_ne_none info
  · exact h

theorem Registry.addIdentity (h : d.Registry) (id : Nat) (info : Info) : (d.addIdentity id info).Registry where
  service := h.service
  placed := fun ho => (h.placed ho).mono fun _ hk => hk.addIdentity id info

theorem Registry.registered (h : d.Registry) (hid : d.Knows id) : (d.registered id).Registry where
  service := by
    rw [get?_registered, if_neg (Bus.identityPath_ne_mainObject id)]
    exact h.service
  placed := by
    intro path o ho
    have hmono : ∀ {path o}, d.Placed path o → (d.registered id).Placed path o := fun hp => hp.mono fun _ hk => hk
    rw [get?_registered] at ho
    split at ho
    · next hpath =>
      subst hpath
      cases hold : Keyed.get? d.objects (Bus.identityPath id) with
      | none =>
        rw [hold] at ho
        cases ho
        exact hmono (.identity hid)
      | some old =>
        rw [hold] at ho
        cases ho
        exact hmono (h.placed hold)
    · exact hmono (h.placed ho)

theorem Registry.opened (h : d.Registry) {s : AuthSession} (hs : s.identity = 0 ∨ d.Knows s.identity) :
    (d.opened s).Registry where
  service := by
    simp only [Daemon.opened, Keyed.get?_insert, if_neg (Bus.sessionPath_ne_mainObject _)]
    exact h.service
  placed := by
    intro path o ho
    have hmono : ∀ {path o}, d.Placed path o → (d.opened s).Placed path o := fun hp => hp.mono fun _ hk => hk
    simp only [Daemon.opened, Keyed.get?_insert] at ho
    split at ho
    · next hpath =>
      cases ho
      rw [← hpath]
      exact hmono (.session hs)
    · exact hmono (h.placed ho)

theorem Registry.answered (h : d.Registry) (hy : Answered d q y) : y.2.Registry := by
  cases hy with
  | refused => exact h
  | added _ => exact h.addIdentity _ _
  | found _ hinfo => exact h.registered (ne_of_eq_of_ne hinfo (Option.some_ne_none _))
  | opened _ hknown => exact h.opened hknown
  | read _ _ => exact h
  | stored _ _ _ _ => exact h.addIdentity _ _
  | storedUnnumbered _ _ => exact h.addIdentity _ _
  | processed _ => exact h

theorem registry_run (requests : List Request) : (run requests).state.Registry :=
  Recorded.run_induction (motive := fun x : Recorded Daemon Exchange => x.state.Registry) requests
    registry_initial fun x q h => h.answered (x.state.answered q)

/-! ## Methods of identities -/

theorem exposes_identity (h : o.exposes Bus.identity = true) : ∃ id, o = .identity id := by
  cases o with
  | service => exact absurd h (by decide)
  | identity id => exact ⟨id, rfl⟩
  | session s => exact absurd (beq_iff_eq.mp h) (by decide)

/-- An object of an identity stands under the path of that identity, which is known. -/
theorem Registry.of_identity (h : d.Registry) (ho : Keyed.get? d.objects path = some (.identity id)) :
    path = Bus.identityPath id ∧ d.Knows id := by
  cases h.placed ho with
  | identity hk => exact ⟨rfl, hk⟩

/-- A method of identities is carried out only on the object of a known identity. -/
theorem Registry.of_resolve? (h : d.Registry) (hm : d.resolve? path Bus.identity method = some m) :
    ∃ id, path = Bus.identityPath id ∧ Keyed.get? d.objects path = some (.identity id) ∧ d.Knows id := by
  unfold resolve? at hm
  cases ho : Keyed.get? d.objects path with
  | none =>
    rw [ho] at hm
    cases hm
  | some o =>
    rw [ho] at hm
    simp only at hm
    split at hm
    · next he =>
      obtain ⟨id, rfl⟩ := exposes_identity he
      obtain ⟨hpath, hk⟩ := h.of_identity ho
      exact ⟨id, hpath, rfl, hk⟩
    · cases hm

theorem interface_of_resolve? (hm : d.resolve? path interface method = some m) : m.interface = interface := by
  unfold resolve? at hm
  split at hm
  · cases hm
  · split at hm
    · exact (BusMethod.of_find? hm).1
    · cases hm

/-- What a store comes to once the identity is found. -/
theorem perform_store {info : Info} (ho : Keyed.get? d.objects path = some (.identity id))
    (hinfo : Keyed.get? d.identities id = some info) (args : List Json) :
    (∃ fault, Arguments.dictionary args 0 = .error fault ∧ d.perform .store path args = (.error fault, d)) ∨
    ∃ entries, Arguments.dictionary args 0 = .ok entries ∧
      (d.perform .store path args).2 = d.addIdentity id (Keyed.merge info entries) ∧
      (d.perform .store path args).1 = match Keyed.get? (Keyed.merge info entries) "Id" with
        | some number => .ok ⟨number, none⟩
        | none => .error (.invalidArgs s!"Identity {decimal id} has no Id") := by
  simp only [perform]
  cases hentries : Arguments.dictionary args 0 with
  | error fault => exact .inl ⟨fault, rfl, rfl⟩
  | ok entries =>
    refine .inr ⟨entries, rfl, ?_⟩
    simp only [storeInfo_some (identityAt_eq_ok.mpr ho) hinfo]
    refine ⟨trivial, ?_⟩
    cases Keyed.get? (Keyed.merge info entries) "Id" <;> rfl

/-- A call on an identity fails only for want of the method, or because of its arguments and the dictionary. -/
theorem Registry.identity_fault (h : d.Registry) {fault : BusFault}
    (hf : (d.call path Bus.identity method args).1 = .error fault) :
    fault = .unknownMethod path Bus.identity method ∨ ∃ message, fault = .invalidArgs message := by
  unfold call at hf
  cases hm : d.resolve? path Bus.identity method with
  | none =>
    rw [hm] at hf
    exact .inl (Except.error.inj hf).symm
  | some m =>
    rw [hm] at hf
    have hi := interface_of_resolve? hm
    obtain ⟨id, -, ho, hk⟩ := h.of_resolve? hm
    obtain ⟨info, hinfo⟩ := Option.ne_none_iff_exists'.mp hk
    cases m with
    | getInfo =>
      simp only [perform, identityInfo_some ho hinfo] at hf
      cases hf
    | store =>
      rcases perform_store ho hinfo args with ⟨fault', hdictionary, hx⟩ | ⟨entries, -, -, hx⟩
      · simp only [hx] at hf
        cases hf
        rcases Arguments.dictionary_error hdictionary with rfl | rfl <;> exact .inr ⟨_, rfl⟩
      · simp only [hx] at hf
        cases hnumber : Keyed.get? (Keyed.merge info entries) "Id" with
        | none =>
          rw [hnumber] at hf
          cases hf
          exact .inr ⟨_, rfl⟩
        | some number =>
          rw [hnumber] at hf
          cases hf
    | getIdentity | getAuthSessionObjectPath | addIdentity | process => exact absurd hi (by decide)

/-! ## The registry after a run -/

/-- After any run that does not exhaust the counter of sessions, the service stands under its path, and every other
object under the path of its own number: an identity that is known, or a session of a known identity or of none.
The numbers of the sessions are just those from one up to the counter. The methods of identities are carried out
for known identities only, so a call on them never fails for want of an identity. -/
theorem run_registry (requests : List Request)
    (hbound : (sessions (run requests).history).length < Numeral.maxU32) :
    let d := (run requests).state
    Keyed.get? d.objects Bus.mainObject = some .service ∧
    (∀ path o, path ≠ Bus.mainObject → Keyed.get? d.objects path = some o →
      (∃ id, path = Bus.identityPath id ∧ o = .identity id ∧ d.Knows id) ∨
      ∃ n s, path = Bus.sessionPath n ∧ 1 ≤ n ∧ n < d.nextSession ∧ o = .session s ∧
        (s.identity = 0 ∨ d.Knows s.identity)) ∧
    (∀ n, 1 ≤ n → n < d.nextSession → ∃ s, Keyed.get? d.objects (Bus.sessionPath n) = some (.session s)) ∧
    (∀ path method m, d.resolve? path Bus.identity method = some m →
      ∃ id, path = Bus.identityPath id ∧ Keyed.get? d.objects path = some (.identity id) ∧ d.Knows id) ∧
    ∀ path method args fault, (d.call path Bus.identity method args).1 = .error fault →
      fault ≠ .identityNotFound ∧ ∀ path', fault ≠ .noIdentityAt path' := by
  intro d
  have hregistry : d.Registry := registry_run requests
  have hnumbered := numbered_run requests hbound
  have hnext : d.nextSession = (sessions (run requests).history).length + 1 := hnumbered.next
  refine ⟨hregistry.service, fun path o hpath ho => ?_, fun n hpos hn => ?_,
    fun path method m hm => hregistry.of_resolve? hm, fun path method args fault hf => ?_⟩
  · cases hregistry.placed ho with
    | service => exact absurd rfl hpath
    | identity hk => exact .inl ⟨_, rfl, rfl, hk⟩
    | @session n s hs =>
      -- a path without a session of its number in the history is free
      cases n with
      | zero => exact absurd (hnumbered.zero.symm.trans ho) (Option.some_ne_none _).symm
      | succ n =>
        have hobject := (hnumbered.object n).symm.trans ho
        obtain ⟨_, hget, -⟩ := Option.map_eq_some_iff.mp hobject
        obtain ⟨hlt, -⟩ := List.getElem?_eq_some_iff.mp hget
        exact .inr ⟨n + 1, s, rfl, by omega, by omega, rfl, hs⟩
  · obtain ⟨n, rfl⟩ : ∃ k, n = k + 1 := ⟨n - 1, by omega⟩
    have hlt : n < (sessions (run requests).history).length := by omega
    have hobject := hnumbered.object n
    rw [List.getElem?_eq_getElem hlt] at hobject
    exact ⟨_, hobject⟩
  · rcases hregistry.identity_fault hf with rfl | ⟨message, rfl⟩
    · exact ⟨BusFault.unknownMethod_ne_identityNotFound _ _ _, BusFault.unknownMethod_ne_noIdentityAt _ _ _⟩
    · exact ⟨BusFault.invalidArgs_ne_identityNotFound _, BusFault.invalidArgs_ne_noIdentityAt _⟩

/-- An identity with its object, and two sessions. -/
theorem run_registry_two_sessions :
    let d := (run [.addIdentity 7 [("Id", .int 7)], .getIdentity 7, .openSession 7 "password",
      .openSession 0 "web"]).state
    d.objectPaths = ["/AuthSession1", "/AuthSession2", "/Identity7", Bus.mainObject] ∧
      (∃ s, Keyed.get? d.objects "/AuthSession2" = some (.session s)) ∧
      ∀ path method args fault, (d.call path Bus.identity method args).1 = .error fault →
        fault ≠ .identityNotFound := by
  obtain ⟨-, -, hsessions, -, hfaults⟩ := run_registry [.addIdentity 7 [("Id", .int 7)], .getIdentity 7,
    .openSession 7 "password", .openSession 0 "web"] (by decide +kernel)
  exact ⟨rfl, hsessions 2 (by decide) (by decide +kernel),
    fun path method args fault hfault => (hfaults path method args fault hfault).1⟩

end Daemon
end LoginRehearsal
