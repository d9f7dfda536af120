import CardRules.Value.Equality

/-!
# Order of values

Numbers and truth values are ordered by size, texts by their code points, and lists by the first
place where they differ, a list that ends there coming first. No other two values have an order.
-/

namespace CardRules.Value

/-- The order of two texts by code points. -/
def compareTexts (s t : String) : Ordering := compare (s.toList.map Char.toNat) (t.toList.map Char.toNat)

mutual

/-- Whether a comparison holds, or none if the values have no order. -/
def holds? (op : Comparison) : Value → Value → Option Bool
  | .bool x, b => b.asNumber?.map ((Number.int (if x then 1 else 0)).holds op)
  | .number m, b => b.asNumber?.map (m.holds op)
  | .text s, b => match b with
    | .text t => some (op.holds (compareTexts s t))
    | _ => none
  | .list xs, b => match b with
    | .list ys => itemsHold? op xs ys
    | _ => none
  | .null, _ | .object _, _ | .keyed _, _ => none
termination_by structural a => a

/-- Whether a comparison holds of two lists. -/
def itemsHold? (op : Comparison) : List Value → List Value → Option Bool
  | [], [] => some (op.holds .eq)
  | [], _ :: _ => some (op.holds .lt)
  | _ :: _, [] => some (op.holds .gt)
  | x :: xs, y :: ys => if alike x y then itemsHold? op xs ys else holds? op x y
termination_by structural xs => xs

end

end CardRules.Value
