import JsonSeek.Proofs.QueryMeaning
import JsonSeek.Proofs.QuerySpelling

/-!
# Paths as queries

The rooted spelling of a path can also be read as a query. Where every key is spelled alike for both
readers, the query has one selector for each step, and it selects what the path leads to: one node,
or nothing if the path leads nowhere (`run_rooted_agrees_with_lookup`).
-/

namespace JsonSeek

namespace Query

/-! ## Spellings of steps -/

/-- The selector that means a single step. -/
def stepToken : Segment → Token
  | .key name => .property name
  | .index i => .index i

/-- A key that both readers find in its spelling. Behind a dot it must not start with the star. In
quotes it must be free of the characters that decide what brackets mean in a query, and must not
hold both quotes. -/
inductive IsSharedKey (name : String) : Prop
  | dotted : Path.isPlainKey name = true → name.toList.head? ≠ some '*' → IsSharedKey name
  | quoted : Path.isPlainKey name = false → IsFree name.toList →
      ('\'' ∉ name.toList ∨ '"' ∉ name.toList) → IsSharedKey name

theorem isDecimalOf_toDigits (n : Nat) : IsDecimalOf n (Nat.toDigits 10 n) where
  nonempty := Nat.toDigits_ne_nil
  all := fun _ inside => Text.isDigit_of_mem_toDigits inside
  value := Nat.ofDigitChars_ten_toDigits

theorem isDotted_of_isPlainKey {name : String} (plain : Path.isPlainKey name = true)
    (noStar : name.toList.head? ≠ some '*') : IsDotted (.property name) name.toList := by
  obtain ⟨nonempty, free⟩ := Path.isPlainKey_eq_true_iff.mp plain
  refine .property nonempty ?_ ?_ noStar
  · intro dot
    cases free _ dot
  · intro bracket
    cases free _ bracket

theorem IsSharedKey.isSpelling {name : String} (shared : IsSharedKey name) :
    IsSpelling (stepToken (.key name)) (Path.stepText (.key name)) := by
  cases shared with
  | dotted plain noStar =>
      rw [Path.stepText_plainKey plain]
      exact .dotted (isDotted_of_isPlainKey plain noStar)
  | quoted quoted free _ =>
      have spelled := Path.stepText_quotedKey quoted []
      rw [List.append_nil] at spelled
      rw [spelled]
      exact .bracketed (.property (Path.keyQuote_eq name) free)

theorem IsSharedKey.isReadableKey {name : String} (shared : IsSharedKey name) :
    Path.isReadableKey name = true := by
  cases shared with
  | dotted plain _ => rw [Path.isReadableKey, plain, Bool.true_or]
  | quoted _ _ single => exact Path.isReadableKey_of_single_quotes single

theorem isSpelling_index (n : Nat) :
    IsSpelling (stepToken (.index n)) (Path.stepText (.index n)) := by
  have shown : (toString (n : Int)).toList = Nat.toDigits 10 n := Nat.toList_repr
  rw [Path.stepText, shown]
  exact .bracketed (.index (isDecimalOf_toDigits n))

/-- The spelling of a path spells its steps as selectors. -/
theorem areSpelled_stepsText {path : Path} (natural : path.IsNatural)
    (shared : ∀ name, .key name ∈ path → IsSharedKey name) :
    AreSpelled (path.map stepToken) (Path.stepsText path) := by
  induction path with
  | nil => exact .nil
  | cons step rest ih =>
      have later := ih natural.tail fun name inside => shared name (List.mem_cons_of_mem _ inside)
      refine .cons ?_ later
      cases step with
      | key name => exact (shared name List.mem_cons_self).isSpelling
      | index i =>
          obtain ⟨n, rfl⟩ := Int.eq_ofNat_of_zero_le (natural i List.mem_cons_self)
          exact isSpelling_index n

/-! ## Selecting by steps -/

theorem picks_stepToken (step : Segment) (node : Node) :
    (stepToken step).picks node = (node.value.step? step).toList.map (node.child step) := by
  cases step <;> rfl

theorem testsPass_stepToken (step : Segment) (v : Value) :
    (stepToken step).testsPass v = true := by
  cases step <;> rfl

/-- The selectors of a path select what the path leads to. -/
theorem select_map_stepToken (path before : Path) (v : Value) :
    select (path.map stepToken) before v =
      .ok ((v.get? path).toList.map (Node.mk (before ++ path))) := by
  induction path generalizing before v with
  | nil =>
      rw [List.append_nil]
      rfl
  | cons step rest ih =>
      rw [List.map_cons, select_cons, if_pos (testsPass_stepToken step v), picks_stepToken,
        Value.get?_cons]
      cases v.step? step with
      | none => rfl
      | some part =>
          have further := ih (before ++ [step]) part
          rw [List.append_assoc] at further
          exact (gather_singleton _ _).trans further

/-! ## Whole paths -/

theorem run_rooted_eq {path : Path} (natural : path.IsNatural)
    (shared : ∀ name, .key name ∈ path → IsSharedKey name) (document : Value) :
    run path.rooted document = .ok ((document.get? path).toList.map (Node.mk path)) := by
  have read : tokenize path.rooted = .ok (.root :: path.map stepToken) := by
    rw [Path.rooted, tokenize, String.toList_ofList]
    exact congrArg (fun rest => Except.ok (.root :: rest))
      (tokens_of_areSpelled (areSpelled_stepsText natural shared))
  have selected : select (.root :: path.map stepToken) [] document =
      .ok ((document.get? path).toList.map (Node.mk path)) :=
    select_map_stepToken path [] document
  rw [run, read]
  simp only [selected, Except.mapError]

/-- The spelling of a path means the same to both readers. As a path it is read back, and as a query
it selects exactly the node that the path leads to, or nothing if the path leads nowhere. -/
theorem run_rooted_agrees_with_lookup {path : Path} (natural : path.IsNatural)
    (shared : ∀ name, .key name ∈ path → IsSharedKey name) (document : Value) :
    Path.read path.rooted = .ok path ∧
      (∀ v, document.lookup path = .ok v → run path.rooted document = .ok [⟨path, v⟩]) ∧
      ∀ step, document.lookup path = .error step → run path.rooted document = .ok [] := by
  have readable : path.IsReadable := fun name inside => (shared name inside).isReadableKey
  refine ⟨(Path.read_rooted_iff natural).mpr readable, ?_, ?_⟩
  · intro v leads
    have found : document.get? path = some v := by rw [Value.get?, leads]; rfl
    rw [run_rooted_eq natural shared, found]
    rfl
  · intro step missing
    have nowhere : document.get? path = none := by rw [Value.get?, missing]; rfl
    rw [run_rooted_eq natural shared, nowhere]
    rfl

/-- A document in which an array stands below a key that has to be quoted. -/
def quotedKeys : Value :=
  .obj [("it's a. key", .arr [.null, .obj [("", .str "x"), ("$?", .bool true)]])]

/-- Through quoted and empty keys the query finds the node of the path, and nothing behind the end
of the array. -/
theorem run_rooted_through_quoted_keys :
    (∀ name ∈ ["it's a. key", "", "$?"], IsSharedKey name) ∧
      Path.rooted [.key "it's a. key", .index 1, .key ""] = "$[\"it's a. key\"][1]['']" ∧
      run "$[\"it's a. key\"][1]['']" quotedKeys =
        .ok [⟨[.key "it's a. key", .index 1, .key ""], .str "x"⟩] ∧
      Path.rooted [.key "it's a. key", .index 2, .key "$?"] = "$[\"it's a. key\"][2].$?" ∧
      run "$[\"it's a. key\"][2].$?" quotedKeys = .ok [] := by
  have title : IsSharedKey "it's a. key" :=
    .quoted (by decide +kernel) (by simp [IsFree]) (Or.inr (by decide +kernel))
  have empty : IsSharedKey "" := .quoted (by decide +kernel) (by simp [IsFree]) (Or.inl (by simp))
  have dollar : IsSharedKey "$?" := .dotted (by decide +kernel) (by decide +kernel)
  have spelled : Path.rooted [.key "it's a. key", .index 1, .key ""] =
      "$[\"it's a. key\"][1]['']" := by decide +kernel
  have spelledBehind : Path.rooted [.key "it's a. key", .index 2, .key "$?"] =
      "$[\"it's a. key\"][2].$?" := by decide +kernel
  refine ⟨by simpa using ⟨title, empty, dollar⟩, spelled, ?_, spelledBehind, ?_⟩
  · obtain ⟨-, found, -⟩ := @run_rooted_agrees_with_lookup
      [.key "it's a. key", .index 1, .key ""] (by simp [Path.IsNatural])
      (by simpa using ⟨title, empty⟩) quotedKeys
    rw [← spelled]
    exact found _ rfl
  · obtain ⟨-, -, missing⟩ := @run_rooted_agrees_with_lookup
      [.key "it's a. key", .index 2, .key "$?"] (by simp [Path.IsNatural])
      (by simpa using ⟨title, dollar⟩) quotedKeys
    rw [← spelledBehind]
    exact missing (.index 2) rfl

end Query

end JsonSeek
