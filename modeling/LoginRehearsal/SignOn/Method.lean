import LoginRehearsal.SignOn.Daemon
import LoginRehearsal.Text.Duration

/-!
# Bus methods

The methods that the daemon answers, with their signatures, and how a call finds its method: the object
has to exist, to have the interface, and the interface to have the method. Arguments and replies are JSON
values that stand for the variants of the bus.

* `BusMethod.table`: all methods, in order.
* `Daemon.call`: a call from path and names to reply.
-/
namespace LoginRehearsal

/-- The methods of the daemon. -/
inductive BusMethod where
  | getIdentity
  | getAuthSessionObjectPath
  | addIdentity
  | getInfo
  | store
  | process
deriving DecidableEq, Repr

namespace BusMethod

def interface : BusMethod → String
  | .getIdentity => Bus.authService
  | .getAuthSessionObjectPath => Bus.authService
  | .addIdentity => Bus.control
  | .getInfo => Bus.identity
  | .store => Bus.identity
  | .process => Bus.authSession

def name : BusMethod → String
  | .getIdentity => "getIdentity"
  | .getAuthSessionObjectPath => "getAuthSessionObjectPath"
  | .addIdentity => "AddIdentity"
  | .getInfo => "getInfo"
  | .store => "store"
  | .process => "process"

/-- The types of the arguments. -/
def inSignature : BusMethod → String
  | .getIdentity => "u"
  | .getAuthSessionObjectPath => "us"
  | .addIdentity => "ua\x7bsv\x7d"
  | .getInfo => ""
  | .store => "a\x7bsv\x7d"
  | .process => "a\x7bsv\x7ds"

/-- The types of the reply. -/
def outSignature : BusMethod → String
  | .getIdentity => "oa\x7bsv\x7d"
  | .getAuthSessionObjectPath => "s"
  | .addIdentity => ""
  | .getInfo => "a\x7bsv\x7d"
  | .store => "u"
  | .process => "a\x7bsv\x7d"

/-- All methods. -/
def table : List BusMethod :=
  [.getIdentity, .getAuthSessionObjectPath, .addIdentity, .getInfo, .store, .process]

/-- The method of a name on an interface. -/
def find? (interface name : String) : Option BusMethod :=
  table.find? fun m => m.interface == interface && m.name == name

end BusMethod

/-- What a call gives back, and how long it takes. -/
structure Reply where
  value : Json
  delay : Option Duration

/-- The milliseconds that a call takes. -/
def Reply.elapsedMillis (r : Reply) : Nat := (r.delay.map Duration.timerMillis).getD 0

namespace Arguments

/-- The argument at a position. -/
def at? (args : List Json) (index : Nat) : Except BusFault Json :=
  match args[index]? with
  | some v => .ok v
  | none => .error (.invalidArgs s!"Missing argument {decimal index}")

/-- A whole number of thirty-two bits. -/
def number (args : List Json) (index : Nat) : Except BusFault Nat := do
  match (← at? args index).asNat? with
  | some n =>
    if n ≤ Numeral.maxU32 then .ok n
    else .error (.invalidArgs s!"Argument {decimal index} must be a uint32")
  | none => .error (.invalidArgs s!"Argument {decimal index} must be a uint32")

def string (args : List Json) (index : Nat) : Except BusFault String := do
  match (← at? args index).asString? with
  | some s => .ok s
  | none => .error (.invalidArgs s!"Argument {decimal index} must be a string")

def dictionary (args : List Json) (index : Nat) : Except BusFault Info := do
  match ← at? args index with
  | .obj members => .ok members
  | _ => .error (.invalidArgs s!"Argument {decimal index} must be a dictionary")

end Arguments

/-! ## Delays -/

/-- A span of so many seconds, to the nearest nanosecond. -/
def Duration.ofNumber (x : Binary64) : Except String Duration :=
  if x.isBelowZero then .error "cannot convert float seconds to Duration: value is negative"
  else
    let (num, den) := x.ratio
    if (Numeral.maxU64 + 1) * den ≤ num then
      .error "cannot convert float seconds to Duration: value is either too big or NaN"
    else .ok ⟨roundToEven (num * 1000000000) den⟩

/-- The delay that the parameters of a session ask for. -/
def delayOf (params : Info) : Except BusFault (Option Duration) :=
  match Keyed.get? params "delay" with
  | none => .ok none
  | some v =>
    match v.asNumber? with
    | none => .error (.invalidArgs "delay must be a number")
    | some x => ((Duration.ofNumber x).map some).mapError .invalidArgs

/-- The fault that the parameters of a session ask for. -/
def faultOf? (params : Info) : Option BusFault :=
  (Keyed.get? params "errorName").map fun v =>
    ⟨v.asString?.getD v.text, "Authentication error"⟩

/-- A session's work: the fault that the parameters ask for, or the parameters, after the delay that
they ask for. -/
def processParameters (params : Info) : Except BusFault Reply :=
  match faultOf? params with
  | some fault => .error fault
  | none => (delayOf params).map fun delay => ⟨.obj params, delay⟩

/-! ## Calls -/

namespace Daemon

/-- A reply without delay. -/
def replied (r : Except BusFault Json) : Except BusFault Reply := r.map fun v => ⟨v, none⟩

/-- Carries out a method on the object at a path. -/
def perform (d : Daemon) (m : BusMethod) (path : String) (args : List Json) :
    Except BusFault Reply × Daemon :=
  match m with
  | .getIdentity =>
    match Arguments.number args 0 with
    | .error fault => (.error fault, d)
    | .ok id =>
      let (found, d) := d.getIdentity id
      (replied (found.map fun (path, info) => .arr [.str path, .obj info]), d)
  | .getAuthSessionObjectPath =>
    match Arguments.number args 0, Arguments.string args 1 with
    | .error fault, _ => (.error fault, d)
    | .ok _, .error fault => (.error fault, d)
    | .ok id, .ok method =>
      let (opened, d) := d.openSession id method
      (replied (opened.map .str), d)
  | .addIdentity =>
    match Arguments.number args 0, Arguments.dictionary args 1 with
    | .error fault, _ => (.error fault, d)
    | .ok _, .error fault => (.error fault, d)
    | .ok id, .ok info => (replied (.ok .null), d.addIdentity id info)
  | .getInfo => (replied ((d.identityInfo path).map .obj), d)
  | .store =>
    match Arguments.dictionary args 0 with
    | .error fault => (.error fault, d)
    | .ok entries =>
      let (stored, d) := d.storeInfo path entries
      (replied stored, d)
  | .process =>
    match Arguments.string args 1, Arguments.dictionary args 0 with
    | .error fault, _ => (.error fault, d)
    | .ok _, .error fault => (.error fault, d)
    | .ok _, .ok params => (processParameters params, d)

/-- The method that a call means. -/
def resolve? (d : Daemon) (path interface method : String) : Option BusMethod :=
  match Keyed.get? d.objects path with
  | none => none
  | some o => if o.exposes interface then BusMethod.find? interface method else none

/-- Answers a call. -/
def call (d : Daemon) (path interface method : String) (args : List Json) :
    Except BusFault Reply × Daemon :=
  match d.resolve? path interface method with
  | none => (.error (.unknownMethod path interface method), d)
  | some m => d.perform m path args

end Daemon
end LoginRehearsal
