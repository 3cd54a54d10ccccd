import LoginRehearsal.Settings

/-!
# Login signals

Two flags through which a server tells a test how far a login is: the page has been shown, and the form
has been accepted. A test waits for a flag; in the meantime others may set or clear it. A waiter does not
watch the flag all the time. It looks at it, and looks again when a change has been announced.

* `Flag.Cell`: a flag with the number of changes that were announced, and what can be done to it.
* `Flag.Cell.wait`: how a wait ends under a schedule of later actions.
* `LoginSignals.set`, `LoginSignals.put`, `LoginSignals.reset`: operations on the pair.
-/
namespace LoginRehearsal

/-- What can be done to a flag. A pulse sets and clears it before any waiter can look. -/
inductive FlagAction where
  | set
  | clear
  | pulse
deriving DecidableEq, Repr

namespace Flag

/-- A flag after an action. -/
def after : FlagAction → Bool
  | .set => true
  | .clear => false
  | .pulse => false

/-- The order of scheduled actions: by their times. -/
def byTime (a b : Nat × FlagAction) : Bool := decide (a.1 ≤ b.1)

/-- How a wait ended: what it answers, after how many milliseconds, and the flag then. -/
structure Waited where
  seen : Bool
  elapsed : Nat
  flag : Bool
deriving DecidableEq, Repr

/-- What a waiter finds when it looks: the flag is set, or it goes on waiting, with the number of changes
that it knows of. -/
inductive Look where
  | found
  | waiting (known : Nat)
deriving DecidableEq, Repr

/-- What all handles on a flag share: whether it is set, and how many changes have been announced. A copy of
a handle leads to the same cell. -/
structure Cell where
  value : Bool
  announced : Nat
deriving DecidableEq, Repr

namespace Cell

/-- A write to the flag, which tells the new value and whether it is to be announced. -/
def modify (c : Cell) (write : Bool → Bool × Bool) : Cell :=
  let (value, announce) := write c.value
  ⟨value, if announce then c.announced + 1 else c.announced⟩

/-- Sets the flag, and announces it if it was unset. -/
def set (c : Cell) : Cell := c.modify fun value => (true, !value)

/-- Unsets the flag, and announces it if it was set. -/
def clear (c : Cell) : Cell := c.modify fun value => (false, value)

/-- The cell after an action. -/
def act (c : Cell) : FlagAction → Cell
  | .set => c.set
  | .clear => c.clear
  | .pulse => c.set.clear

/-- A waiter looks at the flag. -/
def look (c : Cell) : Look := if c.value then .found else .waiting c.announced

/-- A waiter is woken up: it looks again only if a change has been announced since it last looked. -/
def poll (c : Cell) (known : Nat) : Look := if c.announced = known then .waiting known else c.look

/-- The timeout is over. The waiter has the first word, and failing that the flag is read once more. -/
def expire (c : Cell) (timeout known : Nat) : Waited :=
  match c.poll known with
  | .found => ⟨true, timeout, c.value⟩
  | .waiting _ => ⟨c.value, timeout, c.value⟩

/-- The wait of a waiter that has looked. It is woken up behind every action of the schedule, which is in
the order of its times. -/
def waitFrom (timeout : Nat) (c : Cell) (known : Nat) : List (Nat × FlagAction) → Waited
  | [] => c.expire timeout known
  | (time, action) :: rest =>
    if timeout ≤ time then c.expire timeout known
    else match (c.act action).poll known with
      | .found => ⟨true, time, (c.act action).value⟩
      | .waiting known => waitFrom timeout (c.act action) known rest

/-- A wait under a schedule of actions at so many milliseconds after it begins. -/
def wait (c : Cell) (timeout : Nat) (schedule : List (Nat × FlagAction)) : Waited :=
  match c.look with
  | .found => ⟨true, 0, c.value⟩
  | .waiting known => waitFrom timeout c known (schedule.mergeSort byTime)

end Cell

/-- The text of a flag in a report. -/
def report (flag : Bool) : String := "EventFlag \x7b set: " ++ toString flag ++ " \x7d"

end Flag

/-- The two flags. -/
inductive Signal where
  | showLogin
  | loginDone
deriving DecidableEq, Repr

/-- The flags of a server and how long a wait for them lasts. -/
structure LoginSignals where
  showLogin : Bool
  loginDone : Bool
  timeout : Duration
deriving DecidableEq, Repr

namespace LoginSignals

/-- Both flags unset. -/
def withTimeout (timeout : Duration) : LoginSignals := ⟨false, false, timeout⟩

def standard : LoginSignals := withTimeout Settings.standard.signalTimeout

def isSet (s : LoginSignals) : Signal → Bool
  | .showLogin => s.showLogin
  | .loginDone => s.loginDone

/-- The pair with one flag put to a value. -/
def put (s : LoginSignals) (signal : Signal) (value : Bool) : LoginSignals :=
  match signal with
  | .showLogin => { s with showLogin := value }
  | .loginDone => { s with loginDone := value }

def set (s : LoginSignals) (signal : Signal) : LoginSignals := s.put signal true

/-- Both flags unset again. -/
def reset (s : LoginSignals) : LoginSignals := { s with showLogin := false, loginDone := false }

/-- A wait for one flag, for the given time or the default one. Only changes during the wait are counted. -/
def wait (s : LoginSignals) (signal : Signal) (timeout : Option Nat)
    (schedule : List (Nat × FlagAction)) : Flag.Waited × LoginSignals :=
  let cell : Flag.Cell := ⟨s.isSet signal, 0⟩
  let waited := cell.wait (timeout.getD s.timeout.millisUp) schedule
  (waited, s.put signal waited.flag)

/-- The text of the pair in a report. -/
def report (s : LoginSignals) : String :=
  "LoginSignals \x7b show_login: " ++ Flag.report s.showLogin ++ ", login_done: " ++
    Flag.report s.loginDone ++ ", timeout: " ++ s.timeout.text ++ " \x7d"

end LoginSignals
end LoginRehearsal
