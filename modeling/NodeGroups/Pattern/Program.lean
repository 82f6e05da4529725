import NodeGroups.Pattern.Regex

set_option autoImplicit false

namespace NodeGroups.Pattern

open Text (CharSet)

/-- An instruction of a program, with the addresses where it goes on. -/
inductive Instruction
  | read (chars : CharSet) (next : Nat)
  | look (l : Look) (next : Nat)
  /-- The first address is preferred. -/
  | fork (first second : Nat)
  | accept
  deriving Inhabited

/-- Instructions by address. -/
abbrev Code := Array Instruction

/-- Adds an instruction and tells its address. -/
def Code.append (code : Code) (i : Instruction) : Nat × Code := (code.size, code.push i)

/-- A fork into another repetition, at `again`, or out of it. -/
def forkOut (greedy : Bool) (again out : Nat) : Instruction :=
  if greedy then .fork again out else .fork out again

/-- Translates an expression `count` times in a row; `one` translates it once, in front of the code
at an address. -/
def translateCopies (one : Nat → Code → Nat × Code) : (count next : Nat) → Code → Nat × Code
  | 0, next, code => (next, code)
  | count + 1, next, code =>
    let (start, code) := one next code
    translateCopies one count start code

/-- Translates an expression up to `count` times, each further time only after the one before. -/
def translateOptional (one : Nat → Code → Nat × Code) (greedy : Bool) (out : Nat) :
    (count next : Nat) → Code → Nat × Code
  | 0, next, code => (next, code)
  | count + 1, next, code =>
    let (start, code) := one next code
    let (entry, code) := code.append (forkOut greedy start out)
    translateOptional one greedy out count entry code

/-- Translates an expression one or more times; also tells the address of the fork at its end. -/
def translateLoop (one : Nat → Code → Nat × Code) (greedy : Bool) (next : Nat) (code : Code) :
    (Nat × Nat) × Code :=
  let (again, code) := code.append .accept
  let (start, code) := one again code
  ((start, again), code.setIfInBounds again (forkOut greedy start next))

/-- Translates an expression in front of the code at the address `next`, and tells the address of
its own code. -/
def Regex.translate : Regex → (next : Nat) → Code → Nat × Code
  | .empty, next, code => (next, code)
  | .oneOf chars, next, code => code.append (.read chars next)
  | .look l, next, code => code.append (.look l next)
  | .seq a b, next, code =>
    let (middle, code) := b.translate next code
    a.translate middle code
  | .either a b, next, code =>
    let (first, code) := a.translate next code
    let (second, code) := b.translate next code
    code.append (.fork first second)
  | .repeated sub min (some max) greedy, next, code =>
    let (entry, code) := translateOptional sub.translate greedy next (max - min) next code
    translateCopies sub.translate min entry code
  | .repeated sub min none greedy, next, code =>
    let ((start, again), code) := translateLoop sub.translate greedy next code
    if min = 0 then
      if sub.nullable then code.append (forkOut greedy start next) else (again, code)
    else translateCopies sub.translate (min - 1) start code

structure Program where
  code : Code
  start : Nat

def Regex.program (r : Regex) : Program :=
  let (start, code) := r.translate 0 #[.accept]
  ⟨code, start⟩

/-- The threads that wait at a place, preferred ones first. -/
structure Waiting where
  /-- What each thread reads, and where it goes on. -/
  reads : List (CharSet × Nat)
  /-- Whether a thread accepts; those after it do not count any more. -/
  accepted : Bool

namespace Program

/-- Follows the threads at the given addresses up to where they read or accept. An address is
entered once. `fuel` bounds the number of addresses taken from the list. -/
def follow (code : Code) (before after : Option Char) :
    (fuel : Nat) → (pending : List Nat) → (entered : Array Bool) → List (CharSet × Nat) → Waiting
  | 0, _, _, reads => ⟨reads.reverse, false⟩
  | _ + 1, [], _, reads => ⟨reads.reverse, false⟩
  | fuel + 1, address :: pending, entered, reads =>
    if entered.getD address true then follow code before after fuel pending entered reads
    else
      let entered := entered.setIfInBounds address true
      match code[address]? with
      | none => follow code before after fuel pending entered reads
      | some .accept => ⟨reads.reverse, true⟩
      | some (.read chars next) =>
        follow code before after fuel pending entered ((chars, next) :: reads)
      | some (.look l next) =>
        let pending := if l.holds before after then next :: pending else pending
        follow code before after fuel pending entered reads
      | some (.fork first second) =>
        follow code before after fuel (first :: second :: pending) entered reads

/-- The threads that wait between two characters when they came from the given addresses. Every
address adds at most two to the list, which bounds the work. -/
def waiting (p : Program) (before after : Option Char) (addresses : List Nat) : Waiting :=
  follow p.code before after (2 * p.code.size + addresses.length + 1) addresses
    (Array.replicate p.code.size false) []

/-- Runs threads over a text of which `length` characters were read; `best` is the length at which a
preferred thread accepted last. -/
def run (p : Program) (before : Option Char) (addresses : List Nat) (length : Nat)
    (best : Option Nat) : List Char → Option Nat
  | [] => if (p.waiting before none addresses).accepted then some length else best
  | c :: cs =>
    let w := p.waiting before (some c) addresses
    let best := if w.accepted then some length else best
    let addresses := w.reads.filterMap fun (chars, next) =>
      if chars.contains c then some next else none
    if addresses.isEmpty then best else p.run (some c) addresses (length + 1) best cs

/-- The length of the preferred match at the front of a text that stands after a character, or at
the start. -/
def lengthAt (p : Program) (before : Option Char) (cs : List Char) : Option Nat :=
  p.run before [p.start] 0 none cs

end Program

end NodeGroups.Pattern
