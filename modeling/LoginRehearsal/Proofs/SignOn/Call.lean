import LoginRehearsal.SignOn.Method
import Mathlib.Logic.Basic

/-!
# What a call does

A call is refused, or its method is carried out. Six methods leave six kinds of answer behind, and all but one
of the faults are found before anything is written. The exception is a dictionary that is stored on an identity
without a number: whether there is one can be seen only in the merged dictionary, and by then it has been
written.

* `Daemon.Performed`: what a method gives back and leaves behind; `Daemon.performed`: there is no other way.
* `Daemon.failed_call`: what a call that fails leaves behind.
-/
namespace LoginRehearsal

theorem BusMethod.of_find? {interface name : String} {m : BusMethod}
    (h : BusMethod.find? interface name = some m) : m.interface = interface ∧ m.name = name := by
  have hm := List.find?_some h
  simpa using hm

namespace Daemon

variable {d : Daemon} {path interface method : String} {args : List Json} {m : BusMethod}

/-! ## Methods -/

/-- The daemon once an identity has been given an object, unless its path is taken. -/
def registered (d : Daemon) (id : Nat) : Daemon :=
  { d with
    objects := match Keyed.get? d.objects (Bus.identityPath id) with
      | some _ => d.objects
      | none => Keyed.insert d.objects (Bus.identityPath id) (.identity id) }

/-- The daemon once a session has been opened. -/
def opened (d : Daemon) (s : AuthSession) : Daemon :=
  { d with
    nextSession := numberAfter d.nextSession
    objects := Keyed.insert d.objects (Bus.sessionPath d.nextSession) (.session s) }

/-- What a method gives back for arguments on the object at a path, and the daemon after it. -/
inductive Performed (d : Daemon) (path : String) (args : List Json) :
    BusMethod → Except BusFault Reply × Daemon → Prop
  /-- A fault that is found before anything is written. -/
  | refused {m : BusMethod} {fault : BusFault} : Performed d path args m (.error fault, d)
  | identity {id : Nat} {info : Info} (hid : Arguments.number args 0 = .ok id)
      (hinfo : Keyed.get? d.identities id = some info) :
      Performed d path args .getIdentity
        (.ok ⟨.arr [.str (Bus.identityPath id), .obj info], none⟩, d.registered id)
  | session {s : AuthSession} (hid : Arguments.number args 0 = .ok s.identity)
      (hmethod : Arguments.string args 1 = .ok s.method)
      (hknown : s.identity = 0 ∨ Keyed.get? d.identities s.identity ≠ none) :
      Performed d path args .getAuthSessionObjectPath
        (.ok ⟨.str (Bus.sessionPath d.nextSession), none⟩, d.opened s)
  | added {id : Nat} {info : Info} (hid : Arguments.number args 0 = .ok id)
      (hinfo : Arguments.dictionary args 1 = .ok info) :
      Performed d path args .addIdentity (.ok ⟨.null, none⟩, d.addIdentity id info)
  | info {info : Info} (hinfo : d.identityInfo path = .ok info) :
      Performed d path args .getInfo (.ok ⟨.obj info, none⟩, d)
  | stored {id : Nat} {info entries : Info} {number : Json} (hentries : Arguments.dictionary args 0 = .ok entries)
      (hid : d.identityAt path = .ok id) (hinfo : Keyed.get? d.identities id = some info)
      (hnumber : Keyed.get? (Keyed.merge info entries) "Id" = some number) :
      Performed d path args .store (.ok ⟨number, none⟩, d.addIdentity id (Keyed.merge info entries))
  /-- The one fault that is found too late. -/
  | storedUnnumbered {id : Nat} {info entries : Info} (hentries : Arguments.dictionary args 0 = .ok entries)
      (hid : d.identityAt path = .ok id) (hinfo : Keyed.get? d.identities id = some info)
      (hnumber : Keyed.get? (Keyed.merge info entries) "Id" = none) :
      Performed d path args .store
        (.error (.invalidArgs s!"Identity {decimal id} has no Id"), d.addIdentity id (Keyed.merge info entries))
  | processed {params : Info} {reply : Reply} (hparams : Arguments.dictionary args 0 = .ok params)
      (hreply : processParameters params = .ok reply) : Performed d path args .process (.ok reply, d)

theorem getIdentity_some {id : Nat} {info : Info} (h : Keyed.get? d.identities id = some info) :
    d.getIdentity id = (.ok (Bus.identityPath id, info), d.registered id) := by
  unfold getIdentity
  rw [h]
  rfl

theorem storeInfo_some {id : Nat} {info entries : Info} (hid : d.identityAt path = .ok id)
    (hinfo : Keyed.get? d.identities id = some info) :
    d.storeInfo path entries =
      (match Keyed.get? (Keyed.merge info entries) "Id" with
      | some number => .ok number
      | none => .error (.invalidArgs s!"Identity {decimal id} has no Id"),
      d.addIdentity id (Keyed.merge info entries)) := by
  simp only [storeInfo, hid, hinfo]
  cases Keyed.get? (Keyed.merge info entries) "Id" <;> rfl

theorem performed_getIdentity (d : Daemon) (path : String) (args : List Json) :
    Performed d path args .getIdentity (d.perform .getIdentity path args) := by
  simp only [perform]
  cases hid : Arguments.number args 0 with
  | error fault => exact .refused
  | ok id =>
    cases hinfo : Keyed.get? d.identities id with
    | none =>
      simp only [getIdentity, hinfo]
      exact .refused
    | some info =>
      simp only [getIdentity_some hinfo]
      exact .identity hid hinfo

theorem performed_getAuthSessionObjectPath (d : Daemon) (path : String) (args : List Json) :
    Performed d path args .getAuthSessionObjectPath (d.perform .getAuthSessionObjectPath path args) := by
  simp only [perform]
  cases hid : Arguments.number args 0 with
  | error fault => exact .refused
  | ok id =>
    cases hmethod : Arguments.string args 1 with
    | error fault => exact .refused
    | ok name =>
      by_cases hknown : id ≠ 0 ∧ Keyed.get? d.identities id = none
      · simp only [openSession, if_pos hknown]
        exact .refused
      · simp only [openSession, if_neg hknown]
        rw [not_and_or, not_not] at hknown
        exact .session (s := ⟨id, name⟩) hid hmethod hknown

theorem performed_addIdentity (d : Daemon) (path : String) (args : List Json) :
    Performed d path args .addIdentity (d.perform .addIdentity path args) := by
  simp only [perform]
  cases hid : Arguments.number args 0 with
  | error fault => exact .refused
  | ok id =>
    cases hinfo : Arguments.dictionary args 1 with
    | error fault => exact .refused
    | ok info => exact .added hid hinfo

theorem performed_getInfo (d : Daemon) (path : String) (args : List Json) :
    Performed d path args .getInfo (d.perform .getInfo path args) := by
  simp only [perform]
  cases hinfo : d.identityInfo path with
  | error fault => exact .refused
  | ok info => exact .info hinfo

theorem performed_store (d : Daemon) (path : String) (args : List Json) :
    Performed d path args .store (d.perform .store path args) := by
  simp only [perform]
  cases hentries : Arguments.dictionary args 0 with
  | error fault => exact .refused
  | ok entries =>
    cases hid : d.identityAt path with
    | error fault =>
      simp only [storeInfo, hid]
      exact .refused
    | ok id =>
      cases hinfo : Keyed.get? d.identities id with
      | none =>
        simp only [storeInfo, hid, hinfo]
        exact .refused
      | some info =>
        simp only [storeInfo_some hid hinfo]
        cases hnumber : Keyed.get? (Keyed.merge info entries) "Id" with
        | none => exact .storedUnnumbered hentries hid hinfo hnumber
        | some number => exact .stored hentries hid hinfo hnumber

theorem performed_process (d : Daemon) (path : String) (args : List Json) :
    Performed d path args .process (d.perform .process path args) := by
  simp only [perform]
  cases hmethod : Arguments.string args 1 with
  | error fault => exact .refused
  | ok name =>
    cases hparams : Arguments.dictionary args 0 with
    | error fault => exact .refused
    | ok params =>
      cases hreply : processParameters params with
      | error fault =>
        simp only [hreply]
        exact .refused
      | ok reply =>
        simp only [hreply]
        exact .processed hparams hreply

/-- Every method is carried out in one of these ways. -/
theorem performed (d : Daemon) (m : BusMethod) (path : String) (args : List Json) :
    Performed d path args m (d.perform m path args) := by
  cases m with
  | getIdentity => exact performed_getIdentity d path args
  | getAuthSessionObjectPath => exact performed_getAuthSessionObjectPath d path args
  | addIdentity => exact performed_addIdentity d path args
  | getInfo => exact performed_getInfo d path args
  | store => exact performed_store d path args
  | process => exact performed_process d path args

/-! ## Calls -/

/-- A call that means no method is refused. Any other one is carried out. -/
theorem call_cases (d : Daemon) (path interface method : String) (args : List Json) :
    d.call path interface method args = (.error (.unknownMethod path interface method), d) ∨
      ∃ m : BusMethod, m.interface = interface ∧ m.name = method ∧
        Performed d path args m (d.call path interface method args) := by
  unfold call
  cases hm : d.resolve? path interface method with
  | none => exact .inl rfl
  | some m =>
    unfold resolve? at hm
    split at hm
    · cases hm
    · split at hm
      · obtain ⟨hinterface, hname⟩ := BusMethod.of_find? hm
        exact .inr ⟨m, hinterface, hname, performed d m path args⟩
      · cases hm

theorem identityAt_eq_ok {id : Nat} :
    d.identityAt path = .ok id ↔ Keyed.get? d.objects path = some (.identity id) := by
  unfold identityAt
  split <;> simp_all

theorem identityInfo_some {id : Nat} {info : Info} (h : Keyed.get? d.objects path = some (.identity id))
    (hinfo : Keyed.get? d.identities id = some info) : d.identityInfo path = .ok info := by
  unfold identityInfo
  rw [identityAt_eq_ok.mpr h]
  simp only [bind, Except.bind, hinfo]

/-- The dictionary of an identity is the one that was written last. -/
theorem identityInfo_addIdentity {id : Nat} (h : Keyed.get? d.objects path = some (.identity id)) (info : Info) :
    (d.addIdentity id info).identityInfo path = .ok info := by
  refine identityInfo_some h ?_
  simp [addIdentity, Keyed.get?_insert]

/-- The call stores entries on an identity, and neither they nor its dictionary has a number for it. -/
structure StoresUnnumbered (d : Daemon) (path interface method : String) (args : List Json) (id : Nat)
    (info entries : Info) : Prop where
  onIdentity : interface = Bus.identity
  stores : method = "store"
  argument : Arguments.dictionary args 0 = .ok entries
  object : Keyed.get? d.objects path = some (.identity id)
  known : Keyed.get? d.identities id = some info
  unnumbered : Keyed.get? info "Id" = none
  numberless : Keyed.get? entries "Id" = none

section StoresUnnumbered

variable {id : Nat} {info entries : Info}

theorem StoresUnnumbered.call (h : d.StoresUnnumbered path interface method args id info entries) :
    d.call path interface method args =
      (.error (.invalidArgs s!"Identity {decimal id} has no Id"),
        d.addIdentity id (Keyed.merge info entries)) := by
  have hnumber : Keyed.get? (Keyed.merge info entries) "Id" = none :=
    (Keyed.get?_merge_eq_none info entries "Id").mpr ⟨h.unnumbered, h.numberless⟩
  have hresolve : d.resolve? path interface method = some .store := by
    rw [h.onIdentity, h.stores]
    simp only [resolve?, h.object]
    rfl
  simp only [Daemon.call, hresolve, perform, h.argument,
    storeInfo_some (identityAt_eq_ok.mpr h.object) h.known, hnumber]
  rfl

/-- The one way in which a method can fail and leave a trace. -/
theorem Performed.eq_of_error {x : Except BusFault Reply × Daemon} (hx : Performed d path args m x)
    {fault : BusFault} (h : x.1 = .error fault) :
    x.2 = d ∨ ∃ id info entries, d.StoresUnnumbered path m.interface m.name args id info entries ∧
      x.2 = d.addIdentity id (Keyed.merge info entries) := by
  cases hx with
  | refused => exact .inl rfl
  | storedUnnumbered hentries hid hinfo hnumber =>
    obtain ⟨hunnumbered, hnumberless⟩ := (Keyed.get?_merge_eq_none _ _ "Id").mp hnumber
    exact .inr ⟨_, _, _,
      ⟨rfl, rfl, hentries, identityAt_eq_ok.mp hid, hinfo, hunnumbered, hnumberless⟩, rfl⟩
  | identity | session | added | info | stored | processed => cases h

end StoresUnnumbered

/-- A call that fails changes neither the number of the next session nor the objects. It does not change the
identities either, but for a store on an identity without a number: that fails for want of the number, and the
entries have been written. -/
theorem failed_call (d : Daemon) (path interface method : String) (args : List Json) :
    let x := d.call path interface method args
    (∀ fault, x.1 = .error fault →
      x.2.nextSession = d.nextSession ∧ x.2.objects = d.objects ∧
        ((∀ id info entries, ¬d.StoresUnnumbered path interface method args id info entries) → x.2 = d)) ∧
    ∀ id info entries, d.StoresUnnumbered path interface method args id info entries →
      x = (.error (.invalidArgs s!"Identity {decimal id} has no Id"),
        d.addIdentity id (Keyed.merge info entries)) ∧
      x.2.identityInfo path = .ok (Keyed.merge info entries) := by
  intro x
  constructor
  · intro fault hfault
    have hafter : x.2 = d ∨ ∃ id info entries,
        d.StoresUnnumbered path interface method args id info entries ∧
          x.2 = d.addIdentity id (Keyed.merge info entries) := by
      rcases call_cases d path interface method args with hx | ⟨m, rfl, rfl, hx⟩
      · exact .inl (congrArg Prod.snd hx)
      · exact hx.eq_of_error hfault
    rcases hafter with hafter | ⟨id, info, entries, hstores, hafter⟩
    · rw [hafter]
      exact ⟨rfl, rfl, fun _ => rfl⟩
    · rw [hafter]
      exact ⟨rfl, rfl, fun hnone => absurd hstores (hnone id info entries)⟩
  · intro id info entries hstores
    have hx : x = _ := hstores.call
    rw [hx]
    exact ⟨rfl, identityInfo_addIdentity hstores.object _⟩

/-- An identity that was added without a number, and got its object by being asked for. -/
theorem failed_call_unnumbered :
    let d := ((initial.addIdentity 4 [("UserName", .str "ann")]).getIdentity 4).2
    let x := d.call "/Identity4" Bus.identity "store" [.obj [("UserName", .str "bob")]]
    d.identityInfo "/Identity4" = .ok [("UserName", .str "ann")] ∧
      x.1 = .error (.invalidArgs "Identity 4 has no Id") ∧
      x.2.identityInfo "/Identity4" = .ok [("UserName", .str "bob")] := by
  intro d x
  have hstores : d.StoresUnnumbered "/Identity4" Bus.identity "store" [.obj [("UserName", .str "bob")]] 4
      [("UserName", .str "ann")] [("UserName", .str "bob")] :=
    { onIdentity := rfl, stores := rfl, argument := rfl, object := rfl, known := rfl, unnumbered := rfl,
      numberless := rfl }
  obtain ⟨hx, hinfo⟩ := (failed_call d _ _ _ _).2 _ _ _ hstores
  exact ⟨rfl, congrArg Prod.fst hx, hinfo⟩

end Daemon
end LoginRehearsal
