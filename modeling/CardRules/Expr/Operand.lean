import CardRules.Game.State
import CardRules.Value.Order

/-!
# Operands

What a condition can get hold of: plain data, a record of the game, the list of players and the game
itself. Conditions only read. `member` and `index` find what stands under a name or place, and null
where nothing does. Neither fails, but that a number with no text has no meaning as a name.
-/

namespace CardRules.Expr

inductive Operand where
  | data (v : Value)
  /-- The player in a seat. -/
  | player (seat : Nat) (p : Player)
  | turn (t : Turn)
  | round (r : Round)
  | contest (c : Contest)
  | players (ps : List Player)
  | game (g : Game)
  deriving DecidableEq, Repr, Inhabited

namespace Operand

abbrev null : Operand := .data .null

abbrev bool (b : Bool) : Operand := .data (.bool b)

/-- A number of characters, items or entries. -/
abbrev count (n : Nat) : Operand := .data (.int n)

/-- Truth in a condition: records, lists and objects are true. -/
def truth? : Operand → Except Fault Bool
  | .data v => v.truth?
  | _ => .ok true

/-- The operand as messages write it. -/
def written : Operand → String
  | .data v => v.written
  | .player _ p => Record.written p
  | .turn t => Record.written t
  | .round r => Record.written r
  | .contest c => Record.written c
  | .players ps => "[" ++ Value.joined ", " (ps.map Record.written) ++ "]"
  | .game g => g.written

/-- Whether the operand has a text. -/
def hasText : Operand → Bool
  | .data v => v.hasText
  | .player _ p => Record.hasText p
  | .turn t => Record.hasText t
  | .round r => Record.hasText r
  | .contest c => Record.hasText c
  | .players ps => ps.all Record.hasText
  | .game g => g.hasText

/-- The operand as messages write it, if it has a text. -/
def written? (x : Operand) : Except Fault String :=
  if x.hasText then .ok x.written else .error .unreadable

/-! ## Equality and order -/

/-- Whether two lists of players hold alike records in each place. -/
def alikePlayers (ps qs : List Player) : Bool :=
  ps.length == qs.length && (ps.zip qs).all fun (p, q) => Record.alike p q

/-- Equality as a condition tests it. The player in a seat equals itself, whatever its record holds. -/
def equals : Operand → Operand → Bool
  | .data v, .data w => v.equals w
  | .player i p, .player j q => i == j || Record.equal p q
  | .turn t, .turn u => Record.alike t u
  | .round r, .round s => Record.alike r s
  | .contest c, .contest d => Record.alike c d
  | .game g, .game h => g.alike h
  | .players ps, .players qs => alikePlayers ps qs
  | .players ps, .data (.list xs) | .data (.list xs), .players ps => ps.isEmpty && xs.isEmpty
  | _, _ => false

/-- Whether a comparison holds of two lists of players: of records there is no order, so it is
decided only where one list is the beginning of the other. -/
def playersHold (op : Comparison) : List Player → List Player → Bool
  | [], [] => op.holds .eq
  | [], _ :: _ => op.holds .lt
  | _ :: _, [] => op.holds .gt
  | p :: ps, q :: qs => Record.alike p q && playersHold op ps qs

/-- Whether a comparison holds of a list of players and a list of values, which can have a
beginning in common only if one of them is empty. -/
def lengthsHold (op : Comparison) (m n : Nat) : Bool :=
  (m == 0 || n == 0) && op.holds (compare m n)

/-- Whether a comparison holds; none holds of operands without an order. -/
def holds (op : Comparison) : Operand → Operand → Bool
  | .data v, .data w => (v.holds? op w).getD false
  | .players ps, .players qs => playersHold op ps qs
  | .players ps, .data (.list xs) => lengthsHold op ps.length xs.length
  | .data (.list xs), .players ps => lengthsHold op xs.length ps.length
  | _, _ => false

/-! ## Members and places -/

/-- What stands in the game under a name. -/
def ofGame (g : Game) (n : String) : Operand :=
  match FieldName.underscored n with
  | "deck" => .data (.list g.deck)
  | "discard" => .data (.list g.discard)
  | "players" => .players g.players
  | "turn" => .turn g.turn
  | "round" => .round g.round
  | "match" => .contest g.contest
  | "log" => .data (.list g.log)
  | "events" => .data (.list g.events)
  | _ => .null

/-- What stands under a name: an entry of an object, a field of a record, or the length of a list or
text. -/
def member (n : String) : Operand → Operand
  | .data (.object es) => .data ((Table.get? es n).getD .null)
  | .data (.keyed es) => .data ((Entries.get? es (.text n)).getD .null)
  | .data (.list xs) => if n = "length" then .count xs.length else .null
  | .data (.text s) => if n = "length" then .count s.length else .null
  | .data _ => .null
  | .players ps => if n = "length" then .count ps.length else .null
  | .player _ p => .data (Record.read p n)
  | .turn t => .data (Record.read t n)
  | .round r => .data (Record.read r n)
  | .contest c => .data (Record.read c n)
  | .game g => ofGame g n

/-- The place in a list that an operand names: a whole number that is not negative, also one written
as a binary64 number. -/
def place? : Operand → Option Nat
  | .data (.number (.int i)) => if 0 ≤ i then some i.toNat else none
  | .data (.number (.float x)) =>
    if x.isWhole then
      match x.truncate? with
      | some i => if 0 ≤ i then some i.toNat else none
      | none => none
    else none
  | _ => none

/-- The key that an operand names in an object. -/
def key? : Operand → Option Scalar
  | .data v => v.scalar?
  | _ => none

/-- What an object has under the key that an operand names, or else under the text that the key is
written as. -/
def entry (es : Entries Value) (i : Operand) : Except Fault Operand :=
  match key? i with
  | some k =>
    match es.get? k with
    | some v => .ok (.data v)
    | none => do return .data ((es.get? (.text (← (Value.ofScalar k).shown?))).getD .null)
  | none => .ok .null

/-- What stands at a place of a sequence, or its length under `length`. -/
def atPlace (size : Nat) (item? : Nat → Option Operand) (i : Operand) : Operand :=
  if i = .data (.text "length") then .count size
  else match place? i with
    | some n => (item? n).getD .null
    | none => .null

/-- What stands at a place: an item of a list, a character of a text, an entry of an object or a
field of a record. -/
def index (target i : Operand) : Except Fault Operand :=
  match target with
  | .data (.list xs) => .ok (atPlace xs.length (fun n => xs[n]?.map .data) i)
  | .data (.text s) =>
    .ok (atPlace s.length
      (fun n => s.toList[n]?.map fun c => .data (.text (String.singleton c))) i)
  | .players ps => .ok (atPlace ps.length (fun n => ps[n]?.map (.player n)) i)
  | .data v =>
    match v.entries? with
    | some es => entry es i
    | none => .ok .null
  | record =>
    match i with
    | .data (.text n) => .ok (record.member n)
    | _ => .ok .null

end Operand

end CardRules.Expr
