import LoginRehearsal.Proofs.Recorded
import LoginRehearsal.Proofs.SignOn.Call

/-!
# Runs of a daemon

A daemon is asked over the bus and, by the program that runs it, without the bus. Both come to the same few
operations, and only a request that is answered without a fault has carried one out. So a run is written down
as its requests with their answers, and each of them shows the operation, if any, that it has carried out.

* `Daemon.Request`, `Daemon.answer`: what can be asked of a daemon, and the answer.
* `Daemon.Operation`, `Daemon.Exchange.done?`: what a request and its answer amount to.
* `Daemon.run`: a daemon after a list of requests, with all exchanges on the way.
* `Daemon.Answered`: how a request is answered and what it leaves behind; `Daemon.answered`: there is no other
  way.
-/
namespace LoginRehearsal

theorem BusMethod.find?_self (m : BusMethod) : BusMethod.find? m.interface m.name = some m := by
  cases m <;> rfl

namespace Daemon

/-! ## Requests -/

/-- What can be asked of a daemon: a call on the bus, or an operation without the bus. -/
inductive Request where
  | call (path interface method : String) (args : List Json)
  | addIdentity (id : Nat) (info : Info)
  | getIdentity (id : Nat)
  | openSession (id : Nat) (method : String)

/-- The answer to a request, and the daemon after it. Without the bus the answers are those of the methods. -/
def answer (d : Daemon) : Request → Except BusFault Reply × Daemon
  | .call path interface method args => d.call path interface method args
  | .addIdentity id info => (replied (.ok .null), d.addIdentity id info)
  | .getIdentity id =>
    let (found, d) := d.getIdentity id
    (replied (found.map fun (path, info) => .arr [.str path, .obj info]), d)
  | .openSession id method =>
    let (opened, d) := d.openSession id method
    (replied (opened.map .str), d)

/-- What a daemon can be made to do. -/
inductive Operation where
  | add (id : Nat) (info : Info)
  | look (id : Nat)
  | openSession (s : AuthSession)
  | read (path : String)
  | store (path : String) (entries : Info)
  | process (params : Info)

end Daemon

open Daemon (Operation)

/-- What a method is to do with arguments on the object at a path, if the arguments fit. -/
def BusMethod.operation? (path : String) (args : List Json) : BusMethod → Option Operation
  | .getIdentity => (Arguments.number args 0).toOption.map .look
  | .getAuthSessionObjectPath => do
    let id ← (Arguments.number args 0).toOption
    let method ← (Arguments.string args 1).toOption
    pure (.openSession ⟨id, method⟩)
  | .addIdentity => do
    let id ← (Arguments.number args 0).toOption
    let info ← (Arguments.dictionary args 1).toOption
    pure (.add id info)
  | .getInfo => some (.read path)
  | .store => (Arguments.dictionary args 0).toOption.map (.store path)
  | .process => (Arguments.dictionary args 0).toOption.map .process

namespace Daemon

/-- What a request asks for. -/
def Request.operation? : Request → Option Operation
  | .call path interface method args => (BusMethod.find? interface method).bind (·.operation? path args)
  | .addIdentity id info => some (.add id info)
  | .getIdentity id => some (.look id)
  | .openSession id method => some (.openSession ⟨id, method⟩)

/-! ## Runs -/

/-- A request with its answer. -/
structure Exchange where
  request : Request
  answer : Except BusFault Reply

/-- What a daemon has done in an exchange. After a fault that is nothing. -/
def Exchange.done? (x : Exchange) : Option Operation :=
  match x.answer with
  | .ok _ => x.request.operation?
  | .error _ => none

@[simp] theorem Exchange.done?_ok (q : Request) (reply : Reply) :
    Exchange.done? ⟨q, .ok reply⟩ = q.operation? := rfl

theorem Exchange.operation?_of_done? {x : Exchange} {o : Operation} (h : x.done? = some o) :
    x.request.operation? = some o := by
  unfold done? at h
  split at h
  · exact h
  · cases h

def exchange (d : Daemon) (q : Request) : Exchange × Daemon := (⟨q, (d.answer q).1⟩, (d.answer q).2)

/-- The daemon that a list of requests makes of the initial one. -/
def run (requests : List Request) : Recorded Daemon Exchange := Recorded.run exchange initial requests

theorem history_concat (requests : List Request) (q : Request) :
    (run (requests ++ [q])).history = ((run requests).state.exchange q).1 :: (run requests).history :=
  congrArg Recorded.history (Recorded.run_concat requests q)

theorem requests_run (requests : List Request) :
    (run requests).history.map (·.request) = requests.reverse := by
  induction requests using List.reverseRecOn with
  | nil => rfl
  | append_singleton requests q ih =>
    rw [history_concat, List.map_cons, ih, List.reverse_concat]
    rfl

/-! ## All that a request can come to -/

variable {d : Daemon} {q : Request} {path : String} {args : List Json} {m : BusMethod}
  {y : Except BusFault Reply × Daemon}

/-- The answer to a request, and the daemon after it. -/
inductive Answered (d : Daemon) (q : Request) : Except BusFault Reply × Daemon → Prop
  /-- A fault that is found before anything is written. -/
  | refused {fault : BusFault} : Answered d q (.error fault, d)
  | added {id : Nat} {info : Info} (h : q.operation? = some (.add id info)) :
      Answered d q (.ok ⟨.null, none⟩, d.addIdentity id info)
  | found {id : Nat} {info : Info} (h : q.operation? = some (.look id))
      (hinfo : Keyed.get? d.identities id = some info) :
      Answered d q (.ok ⟨.arr [.str (Bus.identityPath id), .obj info], none⟩, d.registered id)
  | opened {s : AuthSession} (h : q.operation? = some (.openSession s))
      (hknown : s.identity = 0 ∨ Keyed.get? d.identities s.identity ≠ none) :
      Answered d q (.ok ⟨.str (Bus.sessionPath d.nextSession), none⟩, d.opened s)
  | read {path : String} {info : Info} (h : q.operation? = some (.read path))
      (hinfo : d.identityInfo path = .ok info) : Answered d q (.ok ⟨.obj info, none⟩, d)
  | stored {path : String} {id : Nat} {info entries : Info} {number : Json}
      (h : q.operation? = some (.store path entries)) (hid : d.identityAt path = .ok id)
      (hinfo : Keyed.get? d.identities id = some info)
      (hnumber : Keyed.get? (Keyed.merge info entries) "Id" = some number) :
      Answered d q (.ok ⟨number, none⟩, d.addIdentity id (Keyed.merge info entries))
  /-- The one fault that is found too late. -/
  | storedUnnumbered {id : Nat} {info entries : Info} {fault : BusFault}
      (hinfo : Keyed.get? d.identities id = some info)
      (hnumber : Keyed.get? (Keyed.merge info entries) "Id" = none) :
      Answered d q (.error fault, d.addIdentity id (Keyed.merge info entries))
  | processed {params : Info} {reply : Reply} (h : q.operation? = some (.process params)) :
      Answered d q (.ok reply, d)

/-- A method that is carried out is the operation that its arguments ask for. -/
theorem Performed.answered (hq : q.operation? = m.operation? path args) (h : Performed d path args m y) :
    Answered d q y := by
  cases h with
  | refused => exact .refused
  | identity hid hinfo =>
    refine .found ?_ hinfo
    simp [hq, BusMethod.operation?, hid, Except.toOption]
  | session hid hmethod hknown =>
    refine .opened ?_ hknown
    simp [hq, BusMethod.operation?, hid, hmethod, Except.toOption]
  | added hid hinfo =>
    refine .added ?_
    simp [hq, BusMethod.operation?, hid, hinfo, Except.toOption]
  | info hinfo => exact .read hq hinfo
  | stored hentries hid hinfo hnumber =>
    refine .stored ?_ hid hinfo hnumber
    simp [hq, BusMethod.operation?, hentries, Except.toOption]
  | storedUnnumbered hentries hid hinfo hnumber => exact .storedUnnumbered hinfo hnumber
  | @processed params reply hparams hreply =>
    have h : q.operation? = some (.process params) := by
      simp [hq, BusMethod.operation?, hparams, Except.toOption]
    exact .processed h

theorem answered_call (d : Daemon) (path interface method : String) (args : List Json) :
    Answered d (.call path interface method args) (d.call path interface method args) := by
  rcases call_cases d path interface method args with h | ⟨m, rfl, rfl, h⟩
  · rw [h]
    exact .refused
  · refine h.answered ?_
    rw [Request.operation?, BusMethod.find?_self]
    rfl

theorem answered_getIdentity (d : Daemon) (id : Nat) :
    Answered d (.getIdentity id) (d.answer (.getIdentity id)) := by
  cases hinfo : Keyed.get? d.identities id with
  | none =>
    simp only [answer, getIdentity, hinfo]
    exact .refused
  | some info =>
    simp only [answer, getIdentity_some hinfo]
    exact .found rfl hinfo

theorem answered_openSession (d : Daemon) (id : Nat) (method : String) :
    Answered d (.openSession id method) (d.answer (.openSession id method)) := by
  by_cases hknown : id ≠ 0 ∧ Keyed.get? d.identities id = none
  · simp only [answer, openSession, if_pos hknown]
    exact .refused
  · simp only [answer, openSession, if_neg hknown]
    rw [not_and_or, not_not] at hknown
    exact .opened (s := ⟨id, method⟩) rfl hknown

/-- Every request is answered in one of these ways. -/
theorem answered (d : Daemon) (q : Request) : Answered d q (d.answer q) := by
  cases q with
  | call path interface method args => exact answered_call d path interface method args
  | addIdentity id info => exact .added rfl
  | getIdentity id => exact answered_getIdentity d id
  | openSession id method => exact answered_openSession d id method

end Daemon
end LoginRehearsal
