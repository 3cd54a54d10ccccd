import LoginRehearsal.Proofs.SignOn.Run
import LoginRehearsal.Proofs.Text.Numeral

/-!
# Sessions

Every session that is opened becomes an object under a number of its own. The numbers go up by one from one
session to the next, whatever else the daemon is asked in between, and no object is ever put in the place of a
session: a path tells its kind and its number. The counter has thirty-two bits, so all this is about runs that
do not exhaust it.

* `Bus.sessionPath_injective`, `Bus.identityPath_ne_sessionPath`: what a path tells.
* `Daemon.Request.AsksSession`, `Daemon.Request.Names`: requests for sessions.
* `Daemon.sessions`: the sessions that a history has opened, the first one first.
* `Daemon.numbered_run`: after any run the session of a number is the one that was opened as such.
* `Daemon.session_paths`: the path that a session is given, and what is found there from then on.
-/
namespace LoginRehearsal

/-! ## Paths -/

namespace Bus

theorem sessionPath_injective {m n : Nat} (h : sessionPath m = sessionPath n) : m = n :=
  Numeral.decimal_injective ((String.append_right_inj _).mp h)

theorem identityPath_injective {m n : Nat} (h : identityPath m = identityPath n) : m = n :=
  Numeral.decimal_injective ((String.append_right_inj _).mp h)

/-- The kinds of paths differ in their second character already. -/
theorem second_sessionPath (n : Nat) : (sessionPath n).toList[1]? = some 'A' := by
  simp [sessionPath]

theorem second_identityPath (id : Nat) : (identityPath id).toList[1]? = some 'I' := by
  simp [identityPath]

theorem identityPath_ne_sessionPath (id n : Nat) : identityPath id ≠ sessionPath n := by
  intro h
  have hc := second_identityPath id
  rw [h, second_sessionPath] at hc
  exact absurd hc (by decide)

theorem sessionPath_ne_mainObject (n : Nat) : sessionPath n ≠ mainObject := by
  intro h
  have hc := second_sessionPath n
  rw [h] at hc
  exact absurd hc (by decide)

theorem identityPath_ne_mainObject (id : Nat) : identityPath id ≠ mainObject := by
  intro h
  have hc := second_identityPath id
  rw [h] at hc
  exact absurd hc (by decide)

end Bus

namespace Daemon

variable {d : Daemon} {q : Request} {y : Except BusFault Reply × Daemon}

/-! ## Requests for sessions -/

/-- The request asks for a session, on the bus or without it. -/
def Request.AsksSession : Request → Prop
  | .call _ interface method _ => interface = Bus.authService ∧ method = "getAuthSessionObjectPath"
  | .openSession _ _ => True
  | .addIdentity _ _ | .getIdentity _ => False

/-- The arguments of the request are the identity and the method of this session. -/
def Request.Names : Request → AuthSession → Prop
  | .call _ _ _ args, s => Arguments.number args 0 = .ok s.identity ∧ Arguments.string args 1 = .ok s.method
  | .openSession id method, s => s = ⟨id, method⟩
  | .addIdentity _ _, _ | .getIdentity _, _ => False

/-- What asks for a session asks for the one that it names, if for any. -/
theorem Request.AsksSession.names {o : Operation} (h : q.AsksSession) (ho : q.operation? = some o) :
    ∃ s, o = .openSession s ∧ q.Names s := by
  cases q with
  | call path interface method args =>
    obtain ⟨rfl, rfl⟩ := h
    have hop : BusMethod.operation? path args .getAuthSessionObjectPath = some o := ho
    cases hid : Arguments.number args 0 with
    | error fault => simp [BusMethod.operation?, hid, Except.toOption] at hop
    | ok id =>
      cases hmethod : Arguments.string args 1 with
      | error fault => simp [BusMethod.operation?, hid, hmethod, Except.toOption] at hop
      | ok name =>
        simp only [BusMethod.operation?, hid, hmethod, Except.toOption] at hop
        exact ⟨⟨id, name⟩, (Option.some.inj hop).symm, hid, hmethod⟩
  | openSession id method => exact ⟨_, (Option.some.inj ho).symm, rfl⟩
  | addIdentity | getIdentity => exact h.elim

/-- Nothing else asks for a session. -/
theorem Request.asksSession_of_operation? {s : AuthSession} (h : q.operation? = some (.openSession s)) :
    q.AsksSession := by
  cases q with
  | call path interface method args =>
    obtain ⟨m, hm, hop⟩ := Option.bind_eq_some_iff.mp h
    obtain ⟨rfl, rfl⟩ := BusMethod.of_find? hm
    cases m with
    | getAuthSessionObjectPath => exact ⟨rfl, rfl⟩
    | getIdentity | addIdentity | getInfo | store | process =>
      simp [BusMethod.operation?, Option.bind_eq_some_iff] at hop
  | openSession id method => trivial
  | addIdentity | getIdentity => cases h

/-! ## The sessions of a history -/

/-- The session that an exchange has opened. -/
def Exchange.session? (x : Exchange) : Option AuthSession :=
  match x.done? with
  | some (.openSession s) => some s
  | _ => none

/-- The sessions that a history has opened, the first one first. -/
def sessions (history : List Exchange) : List AuthSession := (history.filterMap (·.session?)).reverse

theorem Exchange.session?_eq_some_iff {x : Exchange} {s : AuthSession} :
    x.session? = some s ↔ x.done? = some (.openSession s) := by
  unfold session?
  split
  · next h => simp [h]
  · next hother =>
    refine ⟨nofun, fun h => absurd h (hother s)⟩

theorem sessions_cons (x : Exchange) (history : List Exchange) :
    sessions (x :: history) = sessions history ++ x.session?.toList := by
  unfold sessions
  cases h : x.session? <;> simp [h]

/-- What is asked later does not change which sessions were opened before. -/
theorem sessions_prefix (requests later : List Request) :
    sessions (run requests).history <+: sessions (run (requests ++ later)).history :=
  List.reverse_prefix.mpr ((Recorded.history_suffix requests later).filterMap Exchange.session?)

theorem sessions_concat (requests : List Request) (q : Request) :
    sessions (run (requests ++ [q])).history =
      sessions (run requests).history ++ ((run requests).state.exchange q).1.session?.toList := by
  rw [history_concat, sessions_cons]

/-- A session keeps its number whatever is asked later. -/
theorem getElem?_sessions (requests : List Request) (q : Request) (later : List Request) {s : AuthSession}
    (h : sessions (run (requests ++ [q])).history = sessions (run requests).history ++ [s]) :
    (sessions (run (requests ++ q :: later)).history)[(sessions (run requests).history).length]? = some s := by
  obtain ⟨rest, hrest⟩ := sessions_prefix (requests ++ [q]) later
  rw [List.append_assoc, List.singleton_append, h, List.append_assoc] at hrest
  rw [← hrest, List.getElem?_append_right (Nat.le_refl _), Nat.sub_self]
  rfl

/-! ## What an exchange does to sessions -/

/-- An identity that is asked for becomes an object where there was none. No other object changes. -/
theorem get?_registered (d : Daemon) (id : Nat) (path : String) :
    Keyed.get? (d.registered id).objects path =
      if Bus.identityPath id = path then some ((Keyed.get? d.objects path).getD (.identity id))
      else Keyed.get? d.objects path := by
  by_cases hpath : Bus.identityPath id = path
  · subst hpath
    cases ho : Keyed.get? d.objects (Bus.identityPath id) with
    | some o => simp [registered, ho]
    | none => simp [registered, ho, Keyed.get?_insert]
  · rw [if_neg hpath]
    cases ho : Keyed.get? d.objects (Bus.identityPath id) with
    | some o => simp [registered, ho]
    | none => simp [registered, ho, Keyed.get?_insert, hpath]

/-- An exchange opens a session under the next number, or it leaves the counter and all sessions alone. -/
theorem Answered.session_cases (h : Answered d q y) :
    (∃ s, Exchange.session? ⟨q, y.1⟩ = some s ∧
      y = (.ok ⟨.str (Bus.sessionPath d.nextSession), none⟩, d.opened s)) ∨
    (Exchange.session? ⟨q, y.1⟩ = none ∧ y.2.nextSession = d.nextSession ∧
      ∀ n, Keyed.get? y.2.objects (Bus.sessionPath n) = Keyed.get? d.objects (Bus.sessionPath n)) := by
  cases h with
  | opened h _ => exact .inl ⟨_, by simp [Exchange.session?, h], rfl⟩
  | @found id info h _ =>
    refine .inr ⟨by simp [Exchange.session?, h], rfl, fun n => ?_⟩
    rw [get?_registered, if_neg (Bus.identityPath_ne_sessionPath id n)]
  | refused => exact .inr ⟨rfl, rfl, fun _ => rfl⟩
  | added h => exact .inr ⟨by simp [Exchange.session?, h], rfl, fun _ => rfl⟩
  | read h _ => exact .inr ⟨by simp [Exchange.session?, h], rfl, fun _ => rfl⟩
  | stored h _ _ _ => exact .inr ⟨by simp [Exchange.session?, h], rfl, fun _ => rfl⟩
  | storedUnnumbered _ _ => exact .inr ⟨rfl, rfl, fun _ => rfl⟩
  | processed h => exact .inr ⟨by simp [Exchange.session?, h], rfl, fun _ => rfl⟩

/-- A request for a session that succeeds opens the session that it names. -/
theorem Answered.session_of_asks (h : Answered d q y) (hasks : q.AsksSession) {reply : Reply}
    (hreply : y.1 = .ok reply) :
    ∃ s, Exchange.session? ⟨q, y.1⟩ = some s ∧ q.Names s ∧
      y = (.ok ⟨.str (Bus.sessionPath d.nextSession), none⟩, d.opened s) := by
  cases h with
  | refused | storedUnnumbered => cases hreply
  | opened h _ =>
    obtain ⟨_, ho, hnames⟩ := hasks.names h
    cases ho
    exact ⟨_, Exchange.session?_eq_some_iff.mpr h, hnames, rfl⟩
  | added h | found h | read h | stored h | processed h =>
    obtain ⟨_, ho, -⟩ := hasks.names h
    cases ho

/-! ## Numbers -/

/-- The objects under session paths are the sessions of the history, numbered from one in their order. -/
structure Numbered (x : Recorded Daemon Exchange) : Prop where
  next : x.state.nextSession = (sessions x.history).length + 1
  zero : Keyed.get? x.state.objects (Bus.sessionPath 0) = none
  object : ∀ n, Keyed.get? x.state.objects (Bus.sessionPath (n + 1)) =
    (sessions x.history)[n]?.map .session

theorem numbered_initial : Numbered ⟨initial, []⟩ where
  next := rfl
  zero := rfl
  object := by
    intro n
    have hne : Bus.mainObject ≠ Bus.sessionPath (n + 1) := (Bus.sessionPath_ne_mainObject _).symm
    simp [initial, Keyed.get?_cons, hne, sessions]

/-- Short of the greatest number the counter goes up by one. -/
theorem numberAfter_eq {n : Nat} (h : n < Numeral.maxU32) : numberAfter n = n + 1 :=
  Nat.mod_eq_of_lt (Nat.add_lt_add_right h 1)

theorem Numbered.opened {x : Recorded Daemon Exchange} (hx : Numbered x) {s : AuthSession}
    {history : List Exchange} (hs : sessions history = sessions x.history ++ [s])
    (hbound : (sessions history).length < Numeral.maxU32) : Numbered ⟨x.state.opened s, history⟩ where
  next := by
    rw [hs, List.length_append, List.length_singleton] at hbound ⊢
    have hn := hx.next
    rw [← hn] at hbound ⊢
    exact numberAfter_eq hbound
  zero := by
    have hne : Bus.sessionPath x.state.nextSession ≠ Bus.sessionPath 0 := fun h => by
      have := Bus.sessionPath_injective h
      have := hx.next
      omega
    simp only [Daemon.opened, Keyed.get?_insert, if_neg hne, hx.zero]
  object := by
    intro n
    simp only [Daemon.opened, Keyed.get?_insert, hs, hx.next]
    by_cases hn : (sessions x.history).length = n
    · subst hn
      simp
    · have hne : Bus.sessionPath ((sessions x.history).length + 1) ≠ Bus.sessionPath (n + 1) := fun h => by
        have := Bus.sessionPath_injective h
        omega
      rw [if_neg hne, hx.object]
      by_cases hlt : n < (sessions x.history).length
      · rw [List.getElem?_append_left hlt]
      · have hle : (sessions x.history).length + 1 ≤ n := by omega
        rw [List.getElem?_eq_none (by omega), List.getElem?_eq_none (by simpa using hle)]

theorem Numbered.next_exchange {x : Recorded Daemon Exchange} (hx : Numbered x) (q : Request)
    (hbound : (sessions (x.next exchange q).history).length < Numeral.maxU32) :
    Numbered (x.next exchange q) := by
  have hhistory : sessions (x.next exchange q).history =
      sessions x.history ++ (Exchange.session? ⟨q, (x.state.answer q).1⟩).toList := sessions_cons _ _
  rcases (x.state.answered q).session_cases with ⟨s, hs, hy⟩ | ⟨hs, hnext, hobjects⟩
  · rw [hs] at hhistory
    have hstate : (x.next exchange q).state = x.state.opened s := congrArg Prod.snd hy
    have h := hx.opened hhistory hbound
    rw [← hstate] at h
    exact h
  · rw [hs, Option.toList_none, List.append_nil] at hhistory
    refine ⟨?_, ?_, fun n => ?_⟩
    · rw [hhistory]
      exact hnext.trans hx.next
    · exact (hobjects 0).trans hx.zero
    · rw [hhistory]
      exact (hobjects (n + 1)).trans (hx.object n)

theorem numbered_run (requests : List Request)
    (hbound : (sessions (run requests).history).length < Numeral.maxU32) : Numbered (run requests) := by
  refine Recorded.run_induction
    (motive := fun x => (sessions x.history).length < Numeral.maxU32 → Numbered x) requests ?_ ?_ hbound
  · exact fun _ => numbered_initial
  · intro x q ih hq
    -- a history that is short of the bound was so before
    have hle : (sessions x.history).length ≤ (sessions (x.next exchange q).history).length := by
      have := sessions_cons (exchange x.state q).1 x.history
      simp only [Recorded.next, this, List.length_append]
      omega
    exact (ih (Nat.lt_of_le_of_lt hle hq)).next_exchange q hq

theorem Numbered.session? {x : Recorded Daemon Exchange} (hx : Numbered x) {n : Nat} {s : AuthSession}
    (h : (sessions x.history)[n]? = some s) : x.state.session? (Bus.sessionPath (n + 1)) = some s := by
  unfold Daemon.session?
  rw [hx.object, h]
  rfl

/-- In a run that does not exhaust the counter, a request for a session that succeeds is given the path of the next
number, counted over those that succeeded before. Nothing was registered there, and from then on the session with
its identity and method is found there, whatever is asked later. A request that fails, or asks for something else,
leaves the numbering where it is. -/
theorem session_paths (requests : List Request) (q : Request) (later : List Request)
    (hbound : (sessions (run (requests ++ q :: later)).history).length < Numeral.maxU32) :
    let d := (run requests).state
    let n := (sessions (run requests).history).length + 1
    (∀ reply, q.AsksSession → (d.answer q).1 = .ok reply →
      reply = ⟨.str (Bus.sessionPath n), none⟩ ∧
      Bus.sessionPath n ∉ d.objectPaths ∧
      ∃ s, q.Names s ∧ sessions (run (requests ++ [q])).history = sessions (run requests).history ++ [s] ∧
        (run (requests ++ q :: later)).state.session? (Bus.sessionPath n) = some s) ∧
    ((∃ fault, (d.answer q).1 = .error fault) ∨ ¬q.AsksSession →
      (d.answer q).2.nextSession = d.nextSession ∧
      sessions (run (requests ++ [q])).history = sessions (run requests).history) := by
  intro d n
  have hprefix := sessions_prefix requests (q :: later)
  have hbefore : Numbered (run requests) :=
    numbered_run requests (Nat.lt_of_le_of_lt hprefix.length_le hbound)
  have hafter := numbered_run _ hbound
  have hsessions := sessions_concat requests q
  constructor
  · intro reply hasks hreply
    obtain ⟨s, hs, hnames, hy⟩ := (d.answered q).session_of_asks hasks hreply
    replace hsessions : sessions (run (requests ++ [q])).history = sessions (run requests).history ++ [s] := by
      rw [hsessions, exchange, hs]
      rfl
    refine ⟨?_, ?_, s, hnames, hsessions, ?_⟩
    · rw [hy] at hreply
      rw [← Except.ok.inj hreply, show d.nextSession = n from hbefore.next]
    · rw [objectPaths, ← Keyed.get?_eq_none_iff, hbefore.object, List.getElem?_eq_none (Nat.le_refl _)]
      rfl
    · exact hafter.session? (getElem?_sessions requests q later hsessions)
  · intro hother
    rcases (d.answered q).session_cases with ⟨s, hs, hy⟩ | ⟨hs, hnext, -⟩
    · rcases hother with ⟨fault, hfault⟩ | hasks
      · rw [hy] at hfault
        cases hfault
      · have hdone := Exchange.session?_eq_some_iff.mp hs
        rw [hy] at hdone
        exact absurd (Request.asksSession_of_operation? hdone) hasks
    · refine ⟨hnext, ?_⟩
      rw [hsessions, exchange, hs, Option.toList_none, List.append_nil]

/-- A session between a failed request and a later session, of an identity that is added anew. -/
theorem session_paths_after_failure :
    let requests : List Request := [.addIdentity 2 [], .openSession 2 "password", .openSession 9 "password"]
    let q : Request := .call Bus.mainObject Bus.authService "getAuthSessionObjectPath" [.int 2, .str "oauth2"]
    let later : List Request := [.getIdentity 2, .addIdentity 2 [], .openSession 0 "web"]
    ((run requests).state.answer q).1 = .ok ⟨.str "/AuthSession2", none⟩ ∧
      "/AuthSession2" ∉ (run requests).state.objectPaths ∧
      (run (requests ++ q :: later)).state.session? "/AuthSession2" = some ⟨2, "oauth2"⟩ := by
  refine ⟨rfl, ?_⟩
  obtain ⟨-, hfree, s, ⟨hid, hmethod⟩, -, hfound⟩ := (session_paths
    [.addIdentity 2 [], .openSession 2 "password", .openSession 9 "password"]
    (.call Bus.mainObject Bus.authService "getAuthSessionObjectPath" [.int 2, .str "oauth2"])
    [.getIdentity 2, .addIdentity 2 [], .openSession 0 "web"] (by decide +kernel)).1 _ ⟨rfl, rfl⟩ rfl
  obtain ⟨id, name⟩ := s
  cases hid
  cases hmethod
  exact ⟨hfree, hfound⟩

end Daemon
end LoginRehearsal
