import CardRules.Fault

/-!
# Random sources

A seeded source is a 32-bit generator: each draw adds a fixed odd constant to its state and scrambles
the sum, and the draw is the scrambled word divided by `2 ^ 32`. A source can also repeat a given
list of draws round and round.
-/

namespace CardRules

open Decimal

/-- The rolling hash of a text: multiplier 31, modulo `2 ^ 32`. -/
def hashText (s : String) : UInt32 :=
  s.toList.foldl (fun h c => 31 * h + UInt32.ofNat c.toNat) 0

/-- The state of a seeded generator. -/
structure Generator where
  state : UInt32
  deriving DecidableEq, Repr, Inhabited

namespace Generator

/-- What one draw adds to the state. -/
def increment : UInt32 := 0x6D2B79F5

/-- The scrambled form of a state. -/
def scramble (s : UInt32) : UInt32 :=
  let t := (s ^^^ (s >>> 15)) * (1 ||| s)
  let t := (t + (t ^^^ (t >>> 7)) * (61 ||| t)) ^^^ t
  t ^^^ (t >>> 14)

/-- The next state. -/
def advance (g : Generator) : Generator := ⟨g.state + increment⟩

/-- The word drawn on reaching a state. -/
def word (g : Generator) : UInt32 := scramble g.state

/-- A word as a number from zero up to but excluding one. -/
def fraction (w : UInt32) : Binary64 :=
  Binary64.ofRatio false (w.toNat * unitsPerOne) (Nat.pow 2 32)

/-- A generator started from a number: its whole part, or one in place of zero, modulo `2 ^ 32`. -/
def ofNumber? : Number → Except Fault Generator
  | .int i => .ok ⟨UInt32.ofInt (if i = 0 then 1 else i)⟩
  | .float x =>
    match x.truncate? with
    | some i => .ok ⟨UInt32.ofInt (if i = 0 then 1 else i)⟩
    | none => .error (if x.isNaN then .unreadable else .overflow)

/-- A generator started from a seed: the hash of a text, or a number. -/
def ofSeed? : Value → Except Fault Generator
  | .text s => .ok ⟨hashText s⟩
  | v => match v.asNumber? with
    | some n => ofNumber? n
    | none => .error .wrongKind

end Generator

/-- Where the draws of a shuffle come from. -/
inductive Source where
  | seeded (g : Generator)
  /-- Given draws, used round and round; `used` counts those taken so far. -/
  | fixed (draws : List Number) (used : Nat)
  deriving DecidableEq, Repr, Inhabited

/-- The next draw and the source after it. -/
def Source.next : Source → Number × Source
  | .seeded g =>
    let g := g.advance
    (.float (Generator.fraction g.word), .seeded g)
  | .fixed draws used => (draws[used % draws.length]?.getD (.int 0), .fixed draws (used + 1))

end CardRules
