import CardRules.Record
import CardRules.Fault

/-!
# Players

A player's record. Rules may store any value in any field, so every field holds a value; the
interpreter keeps `hand` a list of cards and `known` a list of truth values of the same length, which
say of each card of the hand whether it has been revealed.
-/

namespace CardRules

structure Player where
  id : Value
  name : Value
  hand : Value := .list []
  known : Value := .list []
  declared : Value := .bool false
  justDrawn : Value := .bool false
  drawSource : Value := .null
  drawnCard : Value := .null
  score : Value := .int 0
  extras : Table Value := []
  deriving DecidableEq, Repr, Inhabited

namespace Player

/-- The declared fields of a player. -/
inductive Field where
  | id | name | hand | known | declared | justDrawn | drawSource | drawnCard | score
  deriving DecidableEq, Repr

instance : Record Player where
  Field := Field
  title := "PlayerState"
  fields := [.id, .name, .hand, .known, .declared, .justDrawn, .drawSource, .drawnCard, .score]
  name
    | .id => "id"
    | .name => "name"
    | .hand => "hand"
    | .known => "known"
    | .declared => "declared_kabu"
    | .justDrawn => "has_just_drawn"
    | .drawSource => "last_draw_source"
    | .drawnCard => "last_draw_card_code"
    | .score => "score"
  get p
    | .id => p.id
    | .name => p.name
    | .hand => p.hand
    | .known => p.known
    | .declared => p.declared
    | .justDrawn => p.justDrawn
    | .drawSource => p.drawSource
    | .drawnCard => p.drawnCard
    | .score => p.score
  set p f v := match f with
    | .id => { p with id := v }
    | .name => { p with name := v }
    | .hand => { p with hand := v }
    | .known => { p with known := v }
    | .declared => { p with declared := v }
    | .justDrawn => { p with justDrawn := v }
    | .drawSource => { p with drawSource := v }
    | .drawnCard => { p with drawnCard := v }
    | .score => { p with score := v }
  extras := Player.extras
  withExtras p es := { p with extras := es }

/-- A player from a snapshot, which must hold an id and a name under some spelling. -/
def ofSnapshot? : Value → Except Fault Player
  | .object es =>
    let spelled (n : String) := es.any fun e => FieldName.underscored e.1 == n
    if spelled "id" && spelled "name" then
      .ok (Record.writeAll { id := .null, name := .null : Player } es)
    else .error .wrongKind
  | _ => .error .missingMember

end Player

end CardRules
