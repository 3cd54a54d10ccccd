import LoginRehearsal.Proofs.SignOn.Registry

/-!
# Dictionaries

An identity is added with a dictionary, which takes the place of any that it had, and entries are stored over it
through its object. What the daemon keeps under a number is therefore told by the exchanges about that number
alone: the dictionary that was added last, with all entries written over it that were stored since, in their
order. If every dictionary that is added has an entry `Id`, every store finds one.

* `Daemon.lastAdded?`, `Daemon.storedSince`: what a history tells about the dictionary of an identity.
* `Daemon.Answered.get?_identities`: what one exchange makes of it.
* `Daemon.told_run`: the dictionaries after any run are those of the history.
* `Daemon.Shows`, `Daemon.Registry.call_store`: the answers that show a dictionary, and those to a store.
* `Daemon.dictionary_run`: the dictionary in all answers that show it, and what a store comes to.
-/
namespace LoginRehearsal
namespace Daemon

variable {d : Daemon} {q : Request} {path : String} {args : List Json} {id : Nat} {info : Info}
  {y : Except BusFault Reply × Daemon}

/-! ## What a history tells -/

/-- The dictionary with which an exchange has added an identity. -/
def Exchange.added? (id : Nat) (x : Exchange) : Option Info :=
  match x.done? with
  | some (.add added info) => if added = id then some info else none
  | _ => none

theorem Exchange.added?_eq_some_iff {x : Exchange} :
    x.added? id = some info ↔ x.done? = some (.add id info) := by
  unfold added?
  split
  · next added entries h =>
    rw [h, Option.some_inj, Operation.add.injEq]
    by_cases hid : added = id <;> simp [hid]
  · next hother => exact ⟨nofun, fun h => absurd h (hother id info)⟩

/-- The entries that an exchange has stored on an identity. -/
def Exchange.stored? (id : Nat) (x : Exchange) : Option Info :=
  match x.done? with
  | some (.store path entries) => if path = Bus.identityPath id then some entries else none
  | _ => none

/-- The dictionary with which an identity was added last. -/
def lastAdded? (id : Nat) (history : List Exchange) : Option Info := history.findSome? (·.added? id)

/-- The entries that have been stored on an identity since then, in their order. -/
def storedSince (id : Nat) (history : List Exchange) : Info :=
  ((history.takeWhile fun x => (x.added? id).isNone).filterMap (·.stored? id)).reverse.flatten

/-- The dictionary of an identity. -/
def dictionary? (id : Nat) (history : List Exchange) : Option Info :=
  (lastAdded? id history).map (Keyed.merge · (storedSince id history))

theorem dictionary?_cons (id : Nat) (x : Exchange) (history : List Exchange) :
    dictionary? id (x :: history) =
      (x.added? id).or ((dictionary? id history).map (Keyed.merge · ((x.stored? id).getD []))) := by
  unfold dictionary? lastAdded? storedSince
  cases hadded : x.added? id with
  | some info => simp [hadded, Keyed.merge]
  | none =>
    cases hstored : x.stored? id with
    | none => simp [hadded, hstored, Keyed.merge]
    | some entries => simp [hadded, hstored, Keyed.merge_append, Function.comp_def]

/-! ## What an exchange does -/

/-- Every dictionary has an entry `Id`. -/
def AllNumbered (d : Daemon) : Prop :=
  ∀ {id info}, Keyed.get? d.identities id = some info → Keyed.get? info "Id" ≠ none

/-- A dictionary with its entry `Id` keeps one whatever is written over it. -/
theorem merge_numbered (h : Keyed.get? info "Id" ≠ none) (entries : Info) :
    Keyed.get? (Keyed.merge info entries) "Id" ≠ none := fun hnone =>
  h ((Keyed.get?_merge_eq_none info entries "Id").mp hnone).1

theorem map_merge_nil (found : Option Info) : found.map (Keyed.merge · []) = found := by
  cases found <;> rfl

/-- The dictionary of an identity after an exchange: the one it has been added with, or the one it had, with the
entries over it that have been stored. -/
theorem Answered.get?_identities (hy : Answered d q y) (hregistry : d.Registry) (hnumbered : d.AllNumbered)
    (id : Nat) :
    Keyed.get? y.2.identities id = (Exchange.added? id ⟨q, y.1⟩).or
      ((Keyed.get? d.identities id).map (Keyed.merge · ((Exchange.stored? id ⟨q, y.1⟩).getD []))) := by
  have hsame := (map_merge_nil (Keyed.get? d.identities id)).symm
  cases hy with
  | refused => exact hsame
  | @added added info h =>
    simp only [Exchange.added?, Exchange.stored?, Exchange.done?_ok, h, addIdentity, Keyed.get?_insert]
    split
    · rfl
    · exact hsame
  | found h _ =>
    simp only [Exchange.added?, Exchange.stored?, Exchange.done?_ok, h]
    exact hsame
  | opened h _ =>
    simp only [Exchange.added?, Exchange.stored?, Exchange.done?_ok, h]
    exact hsame
  | read h _ =>
    simp only [Exchange.added?, Exchange.stored?, Exchange.done?_ok, h]
    exact hsame
  | @stored path stored info entries number h hid hinfo _ =>
    obtain ⟨rfl, -⟩ := hregistry.of_identity (identityAt_eq_ok.mp hid)
    simp only [Exchange.added?, Exchange.stored?, Exchange.done?_ok, h, addIdentity, Keyed.get?_insert]
    by_cases hpath : stored = id
    · subst hpath
      simp [hinfo]
    · have hne : Bus.identityPath stored ≠ Bus.identityPath id := fun he => hpath (Bus.identityPath_injective he)
      rw [if_neg hpath, if_neg hne]
      exact hsame
  | storedUnnumbered hinfo hnumber => exact absurd hnumber (merge_numbered (hnumbered hinfo) _)
  | processed h =>
    simp only [Exchange.added?, Exchange.stored?, Exchange.done?_ok, h]
    exact hsame

/-! ## Runs -/

/-- Every dictionary that has been added has an entry `Id`. -/
def AddsNumbered (history : List Exchange) : Prop :=
  ∀ x ∈ history, ∀ id info, x.added? id = some info → Keyed.get? info "Id" ≠ none

/-- It is enough that the requests say so, answered or not. -/
theorem addsNumbered_run {requests : List Request}
    (h : ∀ q ∈ requests, ∀ id info, q.operation? = some (.add id info) → Keyed.get? info "Id" ≠ none) :
    AddsNumbered (run requests).history := by
  intro x hx id info hadded
  have hq : x.request ∈ requests := by
    rw [← List.mem_reverse, ← requests_run]
    exact List.mem_map_of_mem hx
  exact h _ hq id info (Exchange.operation?_of_done? (Exchange.added?_eq_some_iff.mp hadded))

/-- The dictionaries are those of the history, and each has an entry `Id`. -/
structure Told (x : Recorded Daemon Exchange) : Prop where
  dictionary : ∀ id, Keyed.get? x.state.identities id = dictionary? id x.history
  numbered : x.state.AllNumbered

theorem Told.next_exchange {x : Recorded Daemon Exchange} (h : Told x) (hregistry : x.state.Registry) (q : Request)
    (hadds : AddsNumbered (x.next exchange q).history) : Told (x.next exchange q) := by
  have hlaw := (x.state.answered q).get?_identities hregistry h.numbered
  refine ⟨fun id => ?_, fun {id info} hinfo => ?_⟩
  · have hhistory := dictionary?_cons id (x.state.exchange q).1 x.history
    rw [← h.dictionary id] at hhistory
    exact (hlaw id).trans hhistory.symm
  · have hinfo' := (hlaw id).symm.trans hinfo
    cases hadded : Exchange.added? id ⟨q, (x.state.answer q).1⟩ with
    | some added =>
      rw [hadded] at hinfo'
      cases hinfo'
      exact hadds _ List.mem_cons_self id info hadded
    | none =>
      rw [hadded, Option.none_or, Option.map_eq_some_iff] at hinfo'
      obtain ⟨before, hbefore, rfl⟩ := hinfo'
      exact merge_numbered (h.numbered hbefore) _

theorem told_run (requests : List Request) (hadds : AddsNumbered (run requests).history) : Told (run requests) := by
  -- a store is told by its path, so the registry is needed in every state on the way
  have hboth : (run requests).state.Registry ∧ (AddsNumbered (run requests).history → Told (run requests)) := by
    refine Recorded.run_induction
      (motive := fun x => x.state.Registry ∧ (AddsNumbered x.history → Told x)) requests ?_ ?_
    · exact ⟨registry_initial, fun _ => ⟨fun _ => rfl, nofun⟩⟩
    · intro x q ih
      refine ⟨ih.1.answered (x.state.answered q), fun hq => ?_⟩
      have hbefore : AddsNumbered x.history := fun z hz => hq z (List.mem_cons_of_mem _ hz)
      exact (ih.2 hbefore).next_exchange ih.1 q hq
  exact hboth.2 hadds

/-! ## What is answered -/

/-- What `getIdentity` gives back depends on the dictionary alone. -/
theorem getIdentity_congr {d d' : Daemon} (h : Keyed.get? d.identities id = Keyed.get? d'.identities id) :
    (d.getIdentity id).1 = (d'.getIdentity id).1 := by
  simp only [getIdentity, h]
  cases Keyed.get? d'.identities id <;> rfl

/-- All answers that show the dictionary of an identity. -/
structure Shows (d : Daemon) (id : Nat) (info : Info) : Prop where
  typed : (d.getIdentity id).1 = .ok (Bus.identityPath id, info)
  found : ∀ args, Arguments.number args 0 = .ok id →
    (d.call Bus.mainObject Bus.authService "getIdentity" args).1 =
      .ok ⟨.arr [.str (Bus.identityPath id), .obj info], none⟩
  read : Bus.identityPath id ∈ d.objectPaths →
    ∀ args, (d.call (Bus.identityPath id) Bus.identity "getInfo" args).1 = .ok ⟨.obj info, none⟩

theorem Registry.object_of_mem (h : d.Registry) (hmem : Bus.identityPath id ∈ d.objectPaths) :
    Keyed.get? d.objects (Bus.identityPath id) = some (.identity id) := by
  obtain ⟨o, ho⟩ := Option.ne_none_iff_exists'.mp fun hnone => Keyed.get?_eq_none_iff.mp hnone hmem
  generalize hpath : Bus.identityPath id = path at ho
  cases h.placed ho with
  | service => exact absurd hpath (Bus.identityPath_ne_mainObject id)
  | identity => rw [ho, Bus.identityPath_injective hpath]
  | session => exact absurd hpath (Bus.identityPath_ne_sessionPath id _)

theorem Registry.shows (h : d.Registry) (hinfo : Keyed.get? d.identities id = some info) : d.Shows id info where
  typed := congrArg Prod.fst (getIdentity_some hinfo)
  found := by
    intro args hid
    have hresolve : d.resolve? Bus.mainObject Bus.authService "getIdentity" = some .getIdentity := by
      simp only [resolve?, h.service]
      rfl
    simp only [call, hresolve, perform, hid, getIdentity_some hinfo]
    rfl
  read := by
    intro hmem args
    have ho := h.object_of_mem hmem
    have hresolve : d.resolve? (Bus.identityPath id) Bus.identity "getInfo" = some .getInfo := by
      simp only [resolve?, ho]
      rfl
    simp only [call, hresolve, perform, identityInfo_some ho hinfo]
    rfl

/-! ## Stores -/

/-- A store that reaches an identity: its dictionary, and the entries that are written over it. -/
structure Reaches (d : Daemon) (path : String) (args : List Json) (id : Nat) (info entries : Info) : Prop where
  place : path = Bus.identityPath id
  known : Keyed.get? d.identities id = some info
  argument : Arguments.dictionary args 0 = .ok entries

/-- A store fails for want of the object or because of its argument, or it reaches an identity. If every
dictionary has an entry `Id`, it gives back that of the merged one. -/
theorem Registry.call_store (h : d.Registry) (hnumbered : d.AllNumbered) (path : String) (args : List Json) :
    (∃ fault, (d.call path Bus.identity "store" args).1 = .error fault ∧
      (fault = .unknownMethod path Bus.identity "store" ∨ Arguments.dictionary args 0 = .error fault)) ∨
    ∃ id info entries number, d.Reaches path args id info entries ∧
      Keyed.get? (Keyed.merge info entries) "Id" = some number ∧
      d.call path Bus.identity "store" args =
        (.ok ⟨number, none⟩, d.addIdentity id (Keyed.merge info entries)) := by
  unfold call
  cases hm : d.resolve? path Bus.identity "store" with
  | none => exact .inl ⟨_, rfl, .inl rfl⟩
  | some m =>
    obtain ⟨id, hpath, ho, hk⟩ := h.of_resolve? hm
    obtain ⟨info, hinfo⟩ := Option.ne_none_iff_exists'.mp hk
    obtain rfl : m = .store := by
      simp only [resolve?, ho] at hm
      exact (Option.some.inj hm).symm
    rcases perform_store ho hinfo args with ⟨fault, hfault, hx⟩ | ⟨entries, hentries, hafter, hx⟩
    · exact .inl ⟨fault, congrArg Prod.fst hx, .inr hfault⟩
    · obtain ⟨number, hnumber⟩ := Option.ne_none_iff_exists'.mp (merge_numbered (hnumbered hinfo) entries)
      rw [hnumber] at hx
      exact .inr ⟨id, info, entries, number, ⟨hpath, hinfo, hentries⟩, hnumber, Prod.ext hx hafter⟩

/-- A fault of the argument is not about the entry `Id`. -/
theorem dictionary_error_ne {index : Nat} {fault : BusFault} (h : Arguments.dictionary args index = .error fault)
    (id : Nat) : fault ≠ .invalidArgs s!"Identity {decimal id} has no Id" := by
  intro he
  have hfirst := congrArg (fun f : BusFault => f.message.toList[0]?) he
  rcases Arguments.dictionary_error h with rfl | rfl <;> simp [BusFault.invalidArgs, toString] at hfirst

/-- A store that succeeds gives back the entry `Id` of the dictionary that it leaves. -/
theorem Registry.store_ok (h : d.Registry) (hnumbered : d.AllNumbered) {reply : Reply}
    (hreply : (d.call path Bus.identity "store" args).1 = .ok reply) :
    ∃ id info entries, Arguments.dictionary args 0 = .ok entries ∧
      (d.getIdentity id).1 = .ok (path, info) ∧
      ((d.call path Bus.identity "store" args).2.getIdentity id).1 = .ok (path, Keyed.merge info entries) ∧
      Keyed.get? (Keyed.merge info entries) "Id" = some reply.value := by
  rcases h.call_store hnumbered path args with ⟨fault, hfault, -⟩ |
    ⟨id, info, entries, number, hreaches, hnumber, hx⟩
  · rw [hfault] at hreply
    cases hreply
  · rw [hx] at hreply
    cases hreply
    refine ⟨id, info, entries, hreaches.argument, ?_, ?_, hnumber⟩
    · rw [hreaches.place]
      exact congrArg Prod.fst (getIdentity_some hreaches.known)
    · have hwritten : Keyed.get? (d.addIdentity id (Keyed.merge info entries)).identities id =
          some (Keyed.merge info entries) := by simp [Daemon.addIdentity, Keyed.get?_insert]
      rw [hx, hreaches.place]
      exact congrArg Prod.fst (getIdentity_some hwritten)

/-- No store fails for want of an entry `Id`. -/
theorem Registry.store_error (h : d.Registry) (hnumbered : d.AllNumbered) (path : String) (args : List Json)
    (id : Nat) : (d.call path Bus.identity "store" args).1 ≠
      .error (.invalidArgs s!"Identity {decimal id} has no Id") := by
  intro hfault
  rcases h.call_store hnumbered path args with ⟨fault, hfailed, hcause⟩ | ⟨_, _, _, _, _, _, hx⟩
  · obtain rfl : fault = _ := Except.error.inj (hfailed.symm.trans hfault)
    rcases hcause with hcause | hcause
    · exact BusFault.unknownMethod_ne_invalidArgs _ _ _ _ hcause.symm
    · exact dictionary_error_ne hcause id rfl
  · rw [hx] at hfault
    cases hfault

/-! ## The dictionaries after a run -/

/-- In a run in which every dictionary that is added has an entry `Id`, all answers about an identity that was
added show the dictionary that it was added with last, under the entries that have been stored on it since: of
each name the last entry counts. An exchange that neither adds the identity nor stores on it changes nothing of
this. A store that succeeds gives back the entry `Id` of the dictionary that it leaves, and none fails for want
of one. -/
theorem dictionary_run (requests : List Request) (hadds : AddsNumbered (run requests).history) :
    let d := (run requests).state
    let history := (run requests).history
    (∀ id added, lastAdded? id history = some added →
      d.Shows id (Keyed.merge added (storedSince id history)) ∧
      ∀ name, Keyed.get? (Keyed.merge added (storedSince id history)) name =
        (Keyed.get? (storedSince id history).reverse name).or (Keyed.get? added name)) ∧
    (∀ q id, (d.exchange q).1.added? id = none → (d.exchange q).1.stored? id = none →
      ((d.answer q).2.getIdentity id).1 = (d.getIdentity id).1) ∧
    (∀ path args reply, (d.call path Bus.identity "store" args).1 = .ok reply →
      ∃ id info entries, Arguments.dictionary args 0 = .ok entries ∧
        (d.getIdentity id).1 = .ok (path, info) ∧
        ((d.call path Bus.identity "store" args).2.getIdentity id).1 = .ok (path, Keyed.merge info entries) ∧
        Keyed.get? (Keyed.merge info entries) "Id" = some reply.value) ∧
    ∀ path args id, (d.call path Bus.identity "store" args).1 ≠
      .error (.invalidArgs s!"Identity {decimal id} has no Id") := by
  intro d history
  have hregistry : d.Registry := registry_run requests
  have htold : Told (run requests) := told_run requests hadds
  refine ⟨fun id added hadded => ⟨hregistry.shows ?_, Keyed.get?_merge _ _⟩, fun q id hadded hstored => ?_,
    fun _ _ _ => hregistry.store_ok htold.numbered, hregistry.store_error htold.numbered⟩
  · have hdictionary := htold.dictionary id
    rw [dictionary?, hadded] at hdictionary
    exact hdictionary
  · refine getIdentity_congr (((d.answered q).get?_identities hregistry htold.numbered id).trans ?_)
    rw [exchange] at hadded hstored
    rw [hadded, hstored, Option.none_or]
    exact map_merge_nil _

/-- An identity that is added, looked up and stored on. -/
theorem dictionary_run_stored :
    let d := (run [.addIdentity 3 [("Id", .int 3), ("UserName", .str "ann")], .getIdentity 3,
      .call "/Identity3" Bus.identity "store" [.obj [("UserName", .str "bob")]], .openSession 3 "password"]).state
    d.Shows 3 [("Id", .int 3), ("UserName", .str "bob")] ∧ "/Identity3" ∈ d.objectPaths := by
  have hadds : AddsNumbered (run [.addIdentity 3 [("Id", .int 3), ("UserName", .str "ann")], .getIdentity 3,
      .call "/Identity3" Bus.identity "store" [.obj [("UserName", .str "bob")]],
      .openSession 3 "password"]).history := by
    refine addsNumbered_run ?_
    simp only [List.forall_mem_cons]
    refine ⟨fun id info h => ?_, fun id info h => ?_, fun id info h => ?_, fun id info h => ?_,
      List.forall_mem_nil _⟩
    · cases h
      exact Option.some_ne_none _
    · cases h
    · cases h
    · cases h
  exact ⟨((dictionary_run _ hadds).1 3 [("Id", .int 3), ("UserName", .str "ann")] rfl).1, by decide +kernel⟩

end Daemon
end LoginRehearsal
