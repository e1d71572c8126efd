import JsonSeek.Json.Reader
import JsonSeek.Proofs.Document

/-!
# Keys of documents

An object that is read holds every key once, because a field of a key that was read before replaces
the value of the earlier one. So all documents that come from text have distinct keys
(`hasDistinctKeys_of_read`).
-/

namespace JsonSeek

namespace Value

theorem keys_setField (name : String) (v : Value) (fields : List (String × Value)) :
    (setField name v fields).map Prod.fst =
      if name ∈ fields.map Prod.fst then fields.map Prod.fst
      else fields.map Prod.fst ++ [name] := by
  induction fields with
  | nil => rfl
  | cons field rest ih =>
      obtain ⟨key, w⟩ := field
      by_cases same : key = name
      · simp [setField, same]
      · have other : name ≠ key := fun reversed => same reversed.symm
        simp only [setField, if_neg same, List.map_cons, List.mem_cons, other, false_or, ih]
        split <;> rfl

theorem nodup_keys_setField {name : String} {v : Value} {fields : List (String × Value)}
    (distinct : (fields.map Prod.fst).Nodup) : ((setField name v fields).map Prod.fst).Nodup := by
  rw [keys_setField]
  split
  · exact distinct
  · rename_i missing
    refine List.nodup_append.mpr ⟨distinct, by simp, ?_⟩
    rintro key present _ last rfl
    rw [List.mem_singleton] at last
    exact missing (last ▸ present)

theorem mem_setField {name : String} {v : Value} {fields : List (String × Value)}
    {field : String × Value} (found : field ∈ setField name v fields) :
    field.2 = v ∨ field ∈ fields := by
  induction fields with
  | nil => exact Or.inl (by rw [List.mem_singleton.mp found])
  | cons first rest ih =>
      obtain ⟨key, w⟩ := first
      simp only [setField] at found
      split at found
      · rcases List.mem_cons.mp found with same | later
        · exact Or.inl (by rw [same])
        · exact Or.inr (List.mem_cons_of_mem _ later)
      · rcases List.mem_cons.mp found with same | later
        · exact Or.inr (by rw [same]; exact List.mem_cons_self)
        · exact (ih later).imp_right (List.mem_cons_of_mem _)

end Value

namespace Json

/-- What the readers of values, elements and fields yield with a given fuel has distinct keys. -/
structure KeepsKeysDistinct (fuel : Nat) : Prop where
  value : ∀ {s v rest}, readValue fuel s = .ok (v, rest) → v.HasDistinctKeys
  items : ∀ {done s v rest}, (∀ item ∈ done, item.HasDistinctKeys) →
    readItems fuel done s = .ok (v, rest) → v.HasDistinctKeys
  fields : ∀ {done s v rest}, (done.map Prod.fst).Nodup →
    (∀ field ∈ done, field.2.HasDistinctKeys) → readFields fuel done s = .ok (v, rest) →
    v.HasDistinctKeys

theorem isContainer_readFraction (negative : Bool) (whole rest : List Char) :
    (readFraction negative whole rest).1.isContainer = false := by
  unfold readFraction
  simp only
  split
  · rfl
  · split <;> rfl

theorem hasDistinctKeys_of_readNumber {s rest : List Char} {v : Value}
    (read : readNumber s = .ok (v, rest)) : v.HasDistinctKeys := by
  have scalar {negative whole behind} (same : readFraction negative whole behind = (v, rest)) :
      v.HasDistinctKeys := by
    have leaf := isContainer_readFraction negative whole behind
    rw [same] at leaf
    exact .scalar leaf
  unfold readNumber at read
  simp only at read
  split at read
  · exact scalar (Except.ok.inj read)
  · -- the sign
    split at read
    · split at read
      · cases read
      · exact scalar (Except.ok.inj read)
    · split at read
      · cases read
      · exact scalar (Except.ok.inj read)

theorem KeepsKeysDistinct.readValue {fuel : Nat} (keeps : KeepsKeysDistinct fuel)
    {s rest : List Char} {v : Value} (read : readValue (fuel + 1) s = .ok (v, rest)) :
    v.HasDistinctKeys := by
  unfold Json.readValue at read
  split at read
  · split at read
    · cases read
    · cases read
      exact .scalar rfl
  · split at read
    · cases read
      exact .obj (by simp) (by simp)
    · exact keeps.fields (by simp) (by simp) read
  · split at read
    · cases read
      exact .arr (by simp)
    · exact keeps.items (by simp) read
  · cases read
    exact .scalar rfl
  · cases read
    exact .scalar rfl
  · cases read
    exact .scalar rfl
  · cases read
    exact .scalar rfl
  · cases read
    exact .scalar rfl
  · cases read
    exact .scalar rfl
  · exact hasDistinctKeys_of_readNumber read

theorem KeepsKeysDistinct.readItems {fuel : Nat} (keeps : KeepsKeysDistinct fuel)
    {done : List Value} {s rest : List Char} {v : Value}
    (earlier : ∀ item ∈ done, item.HasDistinctKeys)
    (read : readItems (fuel + 1) done s = .ok (v, rest)) : v.HasDistinctKeys := by
  unfold Json.readItems at read
  split at read
  · cases read
  · rename_i item after element
    have all : ∀ w ∈ item :: done, w.HasDistinctKeys := by
      rintro w inside
      rcases List.mem_cons.mp inside with rfl | before
      · exact keeps.value element
      · exact earlier w before
    split at read
    · cases read
      exact .arr fun w inside => all w (List.mem_reverse.mp inside)
    · exact keeps.items all read
    · cases read

theorem KeepsKeysDistinct.readFields {fuel : Nat} (keeps : KeepsKeysDistinct fuel)
    {done : List (String × Value)} {s rest : List Char} {v : Value}
    (distinct : (done.map Prod.fst).Nodup) (earlier : ∀ field ∈ done, field.2.HasDistinctKeys)
    (read : readFields (fuel + 1) done s = .ok (v, rest)) : v.HasDistinctKeys := by
  unfold Json.readFields at read
  split at read
  · split at read
    · cases read
    · rename_i key afterKey _
      split at read
      · split at read
        · cases read
        · rename_i w after element
          have keys := @Value.nodup_keys_setField key w done distinct
          have all : ∀ field ∈ Value.setField key w done, field.2.HasDistinctKeys := by
            intro field inside
            rcases Value.mem_setField inside with same | before
            · rw [same]
              exact keeps.value element
            · exact earlier field before
          simp only at read
          split at read
          · cases read
            exact .obj keys all
          · exact keeps.fields keys all read
          · cases read
      · cases read
  · cases read

theorem keepsKeysDistinct (fuel : Nat) : KeepsKeysDistinct fuel := by
  induction fuel with
  | zero => exact ⟨nofun, fun _ => nofun, fun _ _ => nofun⟩
  | succ fuel ih => exact ⟨ih.readValue, ih.readItems, ih.readFields⟩

/-- A document that is read has distinct keys. -/
theorem hasDistinctKeys_of_read {text : String} {document : Value}
    (read : Json.read text = .ok document) : document.HasDistinctKeys := by
  unfold Json.read readText at read
  split at read
  · cases read
  · split at read
    · cases read
    · rename_i v rest value
      split at read
      · cases read
        exact (keepsKeysDistinct _).value value
      · cases read

end Json

end JsonSeek
