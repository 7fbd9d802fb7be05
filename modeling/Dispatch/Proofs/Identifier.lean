import Dispatch.Proofs.Text.Digits

/-!
# Identifiers read back

The text of an identifier is read as the identifier itself if it is a UUID, and nothing but UUIDs
is read. The value of the thirty-two digits decides, together with the fact that the block of the
issued identifiers is told by the first four groups.

## Main definitions

* `Id.IsUuid`: thirty-two digits are enough for the identifier.

## Main results

* `Id.isUuid_iff`: the UUIDs are the identifiers with a value of 128 bits.
* `Id.parse?_text_iff`: the identifiers whose text is read as the identifier.
* `Id.groups?_hyphenated`: the digits of a text in hyphenated groups.
* `Id.ofHex?_hex`: the identifier with given digits.
-/

namespace Dispatch.Id

/-- An identifier **is a UUID** if thirty-two digits are enough for it, of which twelve are for the
count of an issued one. -/
def IsUuid : Id → Prop
  | issued _ serial => serial < 16 ^ 12
  | foreign _ _ _ => True

instance : DecidablePred IsUuid
  | issued _ serial => inferInstanceAs (Decidable (serial < 16 ^ 12))
  | foreign _ _ _ => inferInstanceAs (Decidable True)

/-! ### The digits of an identifier -/

theorem stem_lt (kind : RecordKind) : stem kind < 16 ^ 20 := by cases kind <;> decide

theorem length_stem (kind : RecordKind) : (hexPadded 20 (stem kind)).length = 20 :=
  length_hexPadded (by decide) (stem_lt kind)

theorem length_foreign {value : Nat} (bounded : value < bound) :
    (hexPadded 32 value).length = 32 :=
  length_hexPadded (by decide) bounded

/-- A UUID has **thirty-two digits**. -/
theorem IsUuid.length_hex {id : Id} (h : id.IsUuid) : id.hex.length = 32 := by
  cases id with
  | issued kind serial =>
      have count : (hexPadded 12 serial).length = 12 := length_hexPadded (by decide) h
      rw [hex, List.length_append, length_stem, count]
  | foreign value bounded outside => exact length_foreign bounded

/-- They are **hexadecimal digits**, and so is nothing else in them. -/
theorem exists_hexNumber? (id : Id) : ∃ n, hexNumber? id.hex = some n := by
  cases id with
  | issued kind serial =>
      exact ⟨_, hexNumber?_append (hexNumber?_hexPadded 20 _) (hexNumber?_hexPadded 12 _)⟩
  | foreign value bounded outside => exact ⟨value, hexNumber?_hexPadded 32 value⟩

theorem ofValue_issued {value : Nat} (bounded : value < bound) {kind : RecordKind}
    (block : value / 0x1000000000000 = stem kind) :
    ofValue value bounded = issued kind (value % 0x1000000000000) := by
  unfold ofValue
  split
  · next kind' found =>
    rw [block, kindOfStem?_stem] at found
    cases found
    rfl
  · next missing =>
    rw [block, kindOfStem?_stem] at missing
    cases missing

theorem ofValue_foreign {value : Nat} (bounded : value < bound)
    (outside : kindOfStem? (value / 0x1000000000000) = none) :
    ofValue value bounded = foreign value bounded outside := by
  unfold ofValue
  split
  · next kind found =>
    rw [outside] at found
    cases found
  · rfl

theorem ofHex?_of_value {ds : List Char} {value : Nat} (number : hexNumber? ds = some value)
    (bounded : value < bound) : ofHex? ds = some (ofValue value bounded) := by
  rw [ofHex?, number]
  simp only [Option.bind_eq_bind, Option.bind_some, dif_pos bounded]

/-- The digits of a UUID are those of **its value**. That of an issued one falls into the block of
its kind. -/
theorem IsUuid.exists_value {id : Id} (h : id.IsUuid) :
    ∃ (value : Nat) (bounded : value < bound),
      hexNumber? id.hex = some value ∧ ofValue value bounded = id := by
  cases id with
  | issued kind serial =>
      have short : serial < 16 ^ 12 := h
      have count : (hexPadded 12 serial).length = 12 := length_hexPadded (by decide) short
      have bounded : stem kind * 16 ^ 12 + serial < bound := by
        have below := stem_lt kind
        rw [bound]
        omega
      have block : (stem kind * 16 ^ 12 + serial) / 0x1000000000000 = stem kind := by omega
      have place : (stem kind * 16 ^ 12 + serial) % 0x1000000000000 = serial := by omega
      refine ⟨_, bounded, ?_, ?_⟩
      · rw [hex, hexNumber?_append (hexNumber?_hexPadded 20 _) (hexNumber?_hexPadded 12 _), count]
      · rw [ofValue_issued bounded block, place]
  | foreign value bounded outside =>
      exact ⟨value, bounded, hexNumber?_hexPadded 32 value, ofValue_foreign bounded outside⟩

/-- The UUIDs are **the identifiers with a value** of 128 bits. -/
theorem isUuid_iff {id : Id} :
    id.IsUuid ↔ ∃ (value : Nat) (bounded : value < bound), ofValue value bounded = id := by
  constructor
  · intro h
    obtain ⟨value, bounded, -, same⟩ := h.exists_value
    exact ⟨value, bounded, same⟩
  · rintro ⟨value, bounded, rfl⟩
    unfold ofValue
    split
    · exact Nat.mod_lt value (by decide)
    · trivial

/-- The digits of a UUID are **read as the identifier**. -/
theorem ofHex?_hex {id : Id} (h : id.IsUuid) : ofHex? id.hex = some id := by
  obtain ⟨value, bounded, number, same⟩ := h.exists_value
  rw [ofHex?_of_value number bounded, same]

/-- Only UUIDs are read. -/
theorem isUuid_of_ofHex? {ds : List Char} {id : Id} (read : ofHex? ds = some id) : id.IsUuid := by
  obtain ⟨value, -, read⟩ := Option.bind_eq_some_iff.mp read
  split at read
  · next bounded => exact isUuid_iff.mpr ⟨value, bounded, Option.some.inj read⟩
  · cases read

/-! ### The text of an identifier -/

theorem hyphenated_eq (ds : List Char) : hyphenated ds = ['-'].intercalate [ds.take 8,
    (ds.drop 8).take 4, (ds.drop 12).take 4, (ds.drop 16).take 4, ds.drop 20] := by
  simp [hyphenated, List.intercalate_cons_cons]

/-- The **digits** of a text in hyphenated groups. -/
theorem groups?_hyphenated {ds : List Char} (clean : '-' ∉ ds) (length : ds.length = 32) :
    groups? (hyphenated ds) = some ds := by
  have parts : (hyphenated ds).splitOn '-' = [ds.take 8, (ds.drop 8).take 4, (ds.drop 12).take 4,
      (ds.drop 16).take 4, ds.drop 20] := by
    rw [hyphenated_eq]
    refine List.splitOn_intercalate '-' (fun part mem hyphen => clean ?_) (List.cons_ne_nil _ _)
    simp only [List.mem_cons, List.not_mem_nil, or_false] at mem
    rcases mem with rfl | rfl | rfl | rfl | rfl
    · exact List.mem_of_mem_take hyphen
    · exact List.mem_of_mem_drop (List.mem_of_mem_take hyphen)
    · exact List.mem_of_mem_drop (List.mem_of_mem_take hyphen)
    · exact List.mem_of_mem_drop (List.mem_of_mem_take hyphen)
    · exact List.mem_of_mem_drop hyphen
  have whole : ds.take 8 ++ (ds.drop 8).take 4 ++ (ds.drop 12).take 4 ++ (ds.drop 16).take 4 ++
      ds.drop 20 = ds := by
    rw [← List.take_add, ← List.take_add, ← List.take_add]
    exact List.take_append_drop 20 ds
  have lengths : (ds.take 8).length = 8 ∧ ((ds.drop 8).take 4).length = 4 ∧
      ((ds.drop 12).take 4).length = 4 ∧ ((ds.drop 16).take 4).length = 4 ∧
      (ds.drop 20).length = 12 := by
    simp only [List.length_take, List.length_drop]
    omega
  obtain ⟨a, b, c, d, e⟩ := lengths
  simp only [groups?, parts]
  rw [if_pos (by simp only [a, b, c, d, e, decide_true, Bool.and_true]), whole]

/-- The text is in **no wrapping**: a hyphen stands where a mark would end, and no brace is a
digit. -/
theorem unwrapped_hyphenated {ds : List Char} (clean : '\x7b' ∉ ds) (length : ds.length = 32) :
    unwrapped (hyphenated ds) = hyphenated ds := by
  have front : (hyphenated ds).take 9 = ds.take 8 ++ ['-'] := by
    rw [hyphenated_eq, List.intercalate_cons_cons]
    refine List.take_left' ?_
    rw [List.length_append, List.length_take, List.length_singleton]
    omega
  have mark : ((hyphenated ds).take 9).map Char.toLower ≠ "urn:uuid:".toList := by
    rw [front]
    intro same
    have last := congrArg List.getLast? same
    rw [List.map_append, List.map_singleton, List.getLast?_concat] at last
    exact absurd last (by decide)
  have brace : (hyphenated ds).head? ≠ some '\x7b' := by
    obtain ⟨c, rest, rfl⟩ :=
      List.exists_cons_of_length_pos (Nat.lt_of_lt_of_eq (by decide) length.symm)
    rintro ⟨⟩
    exact clean List.mem_cons_self
  rw [unwrapped, if_neg mark, if_neg]
  simp only [brace, decide_false, Bool.false_and, Bool.false_eq_true, not_false_eq_true]

/-- An identifier that is read is **a UUID**. -/
theorem isUuid_of_parse? {s : String} {id : Id} (read : parse? s = some id) : id.IsUuid := by
  rw [parse?] at read
  split at read
  · exact isUuid_of_ofHex? read
  · obtain ⟨ds, -, read⟩ := Option.bind_eq_some_iff.mp read
    exact isUuid_of_ofHex? read

/-- The text of an identifier is **read as the identifier** if it is a UUID, and only then. -/
theorem parse?_text_iff {id : Id} : parse? id.text = some id ↔ id.IsUuid := by
  refine ⟨isUuid_of_parse?, fun h => ?_⟩
  obtain ⟨n, number⟩ := id.exists_hexNumber?
  have length := h.length_hex
  have hyphen : '-' ∈ hyphenated id.hex := by simp [hyphenated]
  have marked : ¬((hyphenated id.hex).length = 32 && (hyphenated id.hex).all (· ≠ '-')) = true := by
    rw [Bool.and_eq_true, List.all_eq_true]
    exact fun plain => of_decide_eq_true (plain.2 '-' hyphen) rfl
  simp only [parse?, text, String.toList_ofList]
  rw [if_neg marked, unwrapped_hyphenated (notMem_of_hexNumber? rfl number) length,
    groups?_hyphenated (notMem_of_hexNumber? rfl number) length, Option.bind_some, ofHex?_hex h]

end Dispatch.Id
