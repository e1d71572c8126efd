import JsonSeek.Text.Case

/-!
# Lower case characters with a common upper case

When case is ignored, lower case characters with the same upper case count as equal, such as the two
forms of the small sigma. There are few of them beyond the pairs that the lower case map joins.
-/

namespace JsonSeek.Text

/-- The classes of lower case code points with the same upper case. -/
def caseClasses : List (List Nat) := [
  [105, 305], [115, 383], [181, 956], [837, 953, 8126], [912, 8147], [944, 8163], [946, 976],
  [949, 1013], [952, 977], [954, 1008], [960, 982], [961, 1009], [962, 963], [966, 981],
  [1074, 7296], [1076, 7297], [1086, 7298], [1089, 7299], [1090, 7300, 7301], [1098, 7302],
  [1123, 7303], [7304, 42571], [7777, 7835], [64261, 64262]]

/-- The other lower case code points with the same upper case as the given one. -/
def caseFellows (n : Nat) : List Nat :=
  match caseClasses.find? (·.contains n) with
  | none => []
  | some members => members.filter (· ≠ n)

end JsonSeek.Text
