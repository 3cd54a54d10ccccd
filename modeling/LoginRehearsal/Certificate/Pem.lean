import LoginRehearsal.Text.Base64
import LoginRehearsal.Text.Quoted

/-!
# PEM files

A text file with sections between `-----BEGIN …-----` and `-----END …-----` lines, each of which
holds a binary object in Base64. Text outside sections, and sections of unknown labels, are passed
over.

* `Pem.readSection`: the first section of a known label, and the lines behind it.
* `Pem.sections`: all of them, up to the first fault.
* `Pem.decodeBody`: the lax Base64 of section bodies, which allows blanks and missing padding.
-/
namespace LoginRehearsal
namespace Pem

/-- The labels that are known. -/
inductive Label where
  | certificate
  | publicKey
  | rsaPrivateKey
  | privateKey
  | ecPrivateKey
  | revocationList
  | certificateRequest
  | echConfig
deriving DecidableEq, Repr

namespace Label

def text : Label → String
  | .certificate => "CERTIFICATE"
  | .publicKey => "PUBLIC KEY"
  | .rsaPrivateKey => "RSA PRIVATE KEY"
  | .privateKey => "PRIVATE KEY"
  | .ecPrivateKey => "EC PRIVATE KEY"
  | .revocationList => "X509 CRL"
  | .certificateRequest => "CERTIFICATE REQUEST"
  | .echConfig => "ECHCONFIG"

def all : List Label :=
  [certificate, publicKey, rsaPrivateKey, privateKey, ecPrivateKey, revocationList,
    certificateRequest, echConfig]

def ofBytes? (bs : Bytes) : Option Label := all.find? fun l => Utf8.encode l.text == bs

/-- Whether a section holds a private key. -/
def isPrivateKey (l : Label) : Bool :=
  l == .rsaPrivateKey || l == .privateKey || l == .ecPrivateKey

end Label

/-- Why the body of a section is no Base64. -/
inductive BodyFault where
  | invalidCharacter (byte : Nat)
  | prematurePadding
  | invalidTrailingPadding
deriving DecidableEq, Repr

def BodyFault.message : BodyFault → String
  | .invalidCharacter byte => s!"InvalidCharacter({byte})"
  | .prematurePadding => "PrematurePadding"
  | .invalidTrailingPadding => "InvalidTrailingPadding"

/-- Why a file cannot be read. -/
inductive Fault where
  | body (fault : BodyFault)
  | endMissing (label : String)
  | illegalStart (line : String)
deriving DecidableEq, Repr

/-- The wording of a fault. -/
def Fault.message : Fault → String
  | .body fault => fault.message
  | .endMissing label => "section end " ++ quote label ++ " missing"
  | .illegalStart line => "illegal section start: " ++ quote line

/-! ## Section bodies -/

/-- Blanks that a body may hold. -/
def isBodyBlank (b : UInt8) : Bool := b == 0x20 || (0x09 ≤ b.toNat && b.toNat ≤ 0x0D)

/-- The value of a character of a body; padding counts as zero. -/
def value? (b : UInt8) : Option Nat :=
  if b == 0x3D then some 0 else Base64.value? (Char.ofNat b.toNat)

/-- The bytes of a group of four values. -/
def groupBytes (a b c d : Nat) : Bytes :=
  [UInt8.ofNat (a * 4 + b / 16), UInt8.ofNat (b * 16 + c / 4), UInt8.ofNat (c * 64 + d)]

/-- The bytes of the last group, which may lack its padding. -/
def lastGroup : Bytes → Except BodyFault Bytes
  | [] => .ok []
  | [a, b] => if a == 0x3D || b == 0x3D then .error .invalidTrailingPadding
    else .ok ((groupBytes ((value? a).getD 0) ((value? b).getD 0) 0 0).take 1)
  | [a, b, c] =>
    if a == 0x3D || b == 0x3D || c == 0x3D then .error .invalidTrailingPadding
    else .ok ((groupBytes ((value? a).getD 0) ((value? b).getD 0) ((value? c).getD 0) 0).take 2)
  | [a, b, c, d] =>
    let bytes := groupBytes ((value? a).getD 0) ((value? b).getD 0) ((value? c).getD 0)
      ((value? d).getD 0)
    if a == 0x3D || b == 0x3D then .error .invalidTrailingPadding
    else if c == 0x3D then
      if d == 0x3D then .ok (bytes.take 1) else .error .invalidTrailingPadding
    else .ok (if d == 0x3D then bytes.take 2 else bytes)
  | _ => .error .invalidTrailingPadding

/-- The bytes of up to eight characters; only the last four may hold padding. -/
def decodeBlock : Bytes → Except BodyFault Bytes
  | a :: b :: c :: d :: e :: rest =>
    if [a, b, c, d].contains 0x3D then .error .prematurePadding
    else (lastGroup (e :: rest)).map (groupBytes ((value? a).getD 0) ((value? b).getD 0)
      ((value? c).getD 0) ((value? d).getD 0) ++ ·)
  | last => lastGroup last

/-- The bytes of a body, read eight characters at a time: `found` are those of the blocks so far in reverse,
and `block` is the one under way. A block with padding must be the last, which shows when the next begins; a
character of no value is a fault as soon as it is met. -/
def decodeBlocks (found block : Bytes) : Bytes → Except BodyFault Bytes
  | [] => (decodeBlock block).map (found.reverse ++ ·)
  | b :: rest =>
    if isBodyBlank b then decodeBlocks found block rest
    else if (value? b).isNone then .error (.invalidCharacter b.toNat)
    else if block.length < 8 then decodeBlocks found (block ++ [b]) rest
    else if block.contains 0x3D then .error .prematurePadding
    else
      match decodeBlock block with
      | .error fault => .error fault
      | .ok bytes => decodeBlocks (bytes.reverse ++ found) [b] rest

/-- The object that the body of a section holds. -/
def decodeBody (body : Bytes) : Except BodyFault Bytes := decodeBlocks [] [] body

/-! ## Sections -/

/-- Cuts bytes behind every line end, which stays with its line. `line` holds the bytes of the line so
far in reverse. -/
def linesFrom (found : List Bytes) (line : Bytes) : Bytes → List Bytes
  | [] => (if line.isEmpty then found else line.reverse :: found).reverse
  | b :: rest =>
    if b == 0x0A || b == 0x0D then linesFrom ((b :: line).reverse :: found) [] rest
    else linesFrom found (b :: line) rest

/-- The lines of a file. -/
def lines (bs : Bytes) : List Bytes := linesFrom [] [] bs

def beginMark : Bytes := Utf8.encode "-----BEGIN "

def endMark : Bytes := Utf8.encode "-----END "

def dashes : Bytes := Utf8.encode "-----"

/-- Bytes that may stand at the end of a line. -/
def isLineEnd (b : UInt8) : Bool := b == 0x0A || b == 0x0D || b == 0x20

/-- The label in a line that begins a section, if its dashes are in order. From the end of the line,
dashes are counted past line ends and blanks. -/
def labelOf? (line : Bytes) : Option Bytes :=
  let tail := line.reverse.takeWhile fun b => b == 0x2D || isLineEnd b
  if (tail.filter (· == 0x2D)).length = 5 then
    let behind := (tail.reverse.dropWhile isLineEnd).length
    some ((line.take (line.length - behind)).drop beginMark.length)
  else none

/-- Whether a line ends the section of a label. -/
def isEndOf (label line : Bytes) : Bool := (endMark ++ label ++ dashes).isPrefixOf line

/-- A section under way: its label and the body so far in reverse. -/
abbrev Open := Option (Bytes × List Bytes)

/-- The first section of a known label in the lines, and the lines behind it. -/
def readSection (state : Open) : List Bytes → Except Fault (Option ((Label × Bytes) × List Bytes))
  | [] =>
    match state with
    | some (label, _) => .error (.endMissing (Utf8.decodeLossy label))
    | none => .ok none
  | line :: rest =>
    if beginMark.isPrefixOf line then
      match labelOf? line with
      | none => .error (.illegalStart (Utf8.decodeLossy line))
      | some label => readSection (some (label, (state.map (·.2)).getD [])) rest
    else match state with
      | none => readSection none rest
      | some (label, body) =>
        if isEndOf label line then
          match Label.ofBytes? label with
          | none => readSection none rest
          | some known =>
            match decodeBody body.reverse.flatten with
            | .ok object => .ok (some ((known, object), rest))
            | .error fault => .error (.body fault)
        else readSection (some (label, line :: body)) rest

theorem readSection_shorter {state : Open} {ls : List Bytes} {found : Label × Bytes}
    {rest : List Bytes} (h : readSection state ls = .ok (some (found, rest))) :
    rest.length < ls.length := by
  induction ls generalizing state with
  | nil => cases state <;> simp [readSection] at h
  | cons line ls ih =>
    simp only [readSection] at h
    split at h
    · split at h
      · simp at h
      · exact Nat.lt_succ_of_lt (ih h)
    · split at h
      · exact Nat.lt_succ_of_lt (ih h)
      · split at h
        · split at h
          · exact Nat.lt_succ_of_lt (ih h)
          · split at h
            · simp only [Except.ok.injEq, Option.some.injEq, Prod.mk.injEq] at h
              simp [h.2]
            · simp at h
        · exact Nat.lt_succ_of_lt (ih h)

/-- All sections of known labels, up to the first that `stop` holds of. -/
def sectionsUntil (stop : Label → Bool) (ls : List Bytes) : Except Fault (List Label) :=
  match _h : readSection none ls with
  | .error fault => .error fault
  | .ok none => .ok []
  | .ok (some ((label, _), rest)) =>
    if stop label then .ok [label]
    else (sectionsUntil stop rest).map (label :: ·)
termination_by ls.length
decreasing_by exact readSection_shorter _h

/-- All sections of known labels in a file. -/
def sections (file : Bytes) : Except Fault (List Label) := sectionsUntil (fun _ => false) (lines file)

/-- The sections of a file up to the first private key. -/
def sectionsToKey (file : Bytes) : Except Fault (List Label) :=
  sectionsUntil Label.isPrivateKey (lines file)

end Pem
end LoginRehearsal
