import RelationalSearch.Predicate
import RelationalSearch.Value.Exchange

/-!
# Predicates in data exchange

A predicate is handed out with the operands of its comparisons in the form of
data exchange. One operand that has no such form makes the whole predicate
unfit.
-/

namespace RelationalSearch.Predicate

mutual

/-- A predicate whose operands are in the form of data exchange. -/
def exchanged : Predicate → Except Fault Predicate
  | condition c => c.value.exchanged.map fun v => condition { c with value := v }
  | group connective members => (exchangedMembers members).map (group connective)
  | related r table connective members => (exchangedMembers members).map (related r table connective)

/-- The members of a group, in the form of data exchange. -/
def exchangedMembers : List Predicate → Except Fault (List Predicate)
  | [] => .ok []
  | p :: rest => do
    let member ← exchanged p
    let members ← exchangedMembers rest
    return member :: members

end

end RelationalSearch.Predicate
