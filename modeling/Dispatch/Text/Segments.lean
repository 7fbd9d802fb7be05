/-!
# Texts divided by slashes

Branch names, directories and file paths are sequences of segments with a slash between
neighbours.

## Main definitions

* `segments`: the segments of a text; there is always at least one.
* `ofSegments`: the text with the given segments.
* `before`: what comes before a mark.

## Main results

* `ofSegments_segments`: putting the segments of a text together gives the text.
* `segments_ofSegments`: segments without slashes survive being put together.
* `notMem_of_mem_segments`: segments are without slashes.
* `segments_prefix_iff`: when the segments of a text begin with those of another.
* `prefix_iff_segments`: when a text begins with another one.
* `ofSegments_sublist`: with segments left out, what remains of a text was there before.
-/

namespace Dispatch.Text

/-- The **segments** of a text: what stands before, between and after its slashes. -/
def segments (s : List Char) : List (List Char) := s.splitOn '/'

/-- The text with the given segments, a slash between neighbours. -/
def ofSegments (parts : List (List Char)) : List Char := ['/'].intercalate parts

/-- What comes **before** the first occurrence of a mark, or all of a text without one. -/
def before (mark : List Char) : List Char → List Char
  | [] => []
  | c :: cs => if mark.isPrefixOf (c :: cs) then [] else c :: before mark cs

theorem segments_ne_nil (s : List Char) : segments s ≠ [] := List.splitOn_ne_nil '/' s

@[simp] theorem ofSegments_segments (s : List Char) : ofSegments (segments s) = s :=
  List.intercalate_splitOn '/'

theorem segments_ofSegments {parts : List (List Char)} (clean : ∀ p ∈ parts, '/' ∉ p)
    (some_part : parts ≠ []) : segments (ofSegments parts) = parts :=
  List.splitOn_intercalate '/' clean some_part

/-- No segment has a slash in it. -/
theorem notMem_of_mem_segments {s part : List Char} (h : part ∈ segments s) : '/' ∉ part := by
  induction s generalizing part with
  | nil =>
      rw [segments, List.splitOn_nil, List.mem_singleton] at h
      exact h ▸ List.not_mem_nil
  | cons c s ih =>
      rw [segments, List.splitOn_cons_eq_if_modifyHead] at h
      obtain ⟨first, rest, divided⟩ := List.exists_cons_of_ne_nil (segments_ne_nil s)
      rw [divided] at ih
      rw [segments] at divided
      rw [divided] at h
      split at h
      · rcases List.mem_cons.mp h with rfl | h
        · exact List.not_mem_nil
        · exact ih h
      · next other =>
        rw [List.modifyHead_cons] at h
        rcases List.mem_cons.mp h with rfl | h
        · rw [List.mem_cons, not_or]
          exact ⟨fun slash => other (by rw [slash, beq_self_eq_true]), ih List.mem_cons_self⟩
        · exact ih (List.mem_cons_of_mem _ h)

/-- Different texts have different segments. -/
theorem segments_injective {s t : List Char} (same : segments s = segments t) : s = t := by
  rw [← ofSegments_segments s, same, ofSegments_segments]

/-- The segments of a text begin with those of another if the text **goes on from a slash** after
that other one, or ends there. -/
theorem segments_prefix_iff {s t : List Char} :
    segments s <+: segments t ↔ t = s ∨ s ++ ['/'] <+: t := by
  constructor
  · rintro ⟨rest, whole⟩
    rcases List.eq_nil_or_concat rest with rfl | ⟨_, _, more⟩
    · rw [List.append_nil] at whole
      exact .inl (segments_injective whole.symm)
    · have clean : ∀ part ∈ rest, '/' ∉ part := fun part mem =>
        notMem_of_mem_segments (whole ▸ List.mem_append_right _ mem)
      have later : segments (ofSegments rest) = rest :=
        segments_ofSegments clean (by simp [more])
      have same : segments t = segments (s ++ '/' :: ofSegments rest) := by
        rw [← whole, segments, segments, List.splitOn_append_cons_self, ← segments, ← segments,
          later]
      exact .inr ⟨ofSegments rest, by simp [segments_injective same]⟩
  · rintro (rfl | ⟨rest, rfl⟩)
    · exact List.prefix_rfl
    · rw [List.append_assoc, List.singleton_append, segments, segments,
        List.splitOn_append_cons_self]
      exact List.prefix_append _ _

theorem ofSegments_cons_cons (first second : List Char) (rest : List (List Char)) :
    ofSegments (first :: second :: rest) = first ++ '/' :: ofSegments (second :: rest) := by
  simp [ofSegments, List.intercalate_cons_cons]

theorem ofSegments_cons {rest : List (List Char)} (more : rest ≠ []) (first : List Char) :
    ofSegments (first :: rest) = first ++ '/' :: ofSegments rest := by
  obtain ⟨second, rest, rfl⟩ := List.exists_cons_of_ne_nil more
  exact ofSegments_cons_cons first second rest

/-- One segment **more** comes after a slash. -/
theorem ofSegments_concat {parts : List (List Char)} (some_part : parts ≠ []) (last : List Char) :
    ofSegments (parts ++ [last]) = ofSegments parts ++ '/' :: last := by
  induction parts with
  | nil => exact absurd rfl some_part
  | cons part rest ih =>
      cases rest with
      | nil => simp [ofSegments, List.intercalate_cons_cons]
      | cons next rest =>
          rw [ofSegments_cons_cons, List.cons_append, List.cons_append, ofSegments_cons_cons,
            ← List.cons_append, ih (List.cons_ne_nil _ _), List.append_assoc, List.cons_append]

/-- Where one text **goes on as another**, the last segment of the one and the first of the other
become one. -/
theorem ofSegments_append (parts : List (List Char)) (last more : List Char)
    (rest : List (List Char)) : ofSegments (parts ++ (last ++ more) :: rest) =
      ofSegments (parts ++ [last]) ++ ofSegments (more :: rest) := by
  induction parts with
  | nil => cases rest <;> simp [ofSegments, List.intercalate_cons_cons]
  | cons part parts ih =>
      rw [List.cons_append, List.cons_append, ofSegments_cons (by simp), ofSegments_cons (by simp),
        ih, List.append_assoc, List.cons_append]

/-- A text **begins with** another if its segments do, where of the last one no more than the
beginning need be there. -/
theorem prefix_iff_segments {s t : List Char} : s <+: t ↔
    ∃ parts last more rest, segments s = parts ++ [last] ∧
      segments t = parts ++ (last ++ more) :: rest := by
  constructor
  · rintro ⟨u, rfl⟩
    obtain ⟨parts, last, own⟩ := (segments s).eq_nil_or_concat.resolve_left (segments_ne_nil s)
    obtain ⟨more, rest, new⟩ := List.exists_cons_of_ne_nil (segments_ne_nil u)
    rw [List.concat_eq_append] at own
    have whole : s ++ u = ofSegments (parts ++ (last ++ more) :: rest) := by
      rw [ofSegments_append, ← own, ← new, ofSegments_segments, ofSegments_segments]
    refine ⟨parts, last, more, rest, own, ?_⟩
    rw [whole]
    refine segments_ofSegments (fun part mem => ?_) (by simp)
    have clean : ∀ part ∈ parts ++ [last], '/' ∉ part := own ▸ fun _ => notMem_of_mem_segments
    have clean' : ∀ part ∈ more :: rest, '/' ∉ part := new ▸ fun _ => notMem_of_mem_segments
    simp only [List.mem_append, List.mem_cons] at mem clean clean'
    rcases mem with mem | rfl | mem
    · exact clean part (.inl mem)
    · exact List.not_mem_append (clean last (by simp)) (clean' more (.inl rfl))
    · exact clean' part (.inr mem)
  · rintro ⟨parts, last, more, rest, own, whole⟩
    refine ⟨ofSegments (more :: rest), ?_⟩
    rw [← ofSegments_segments s, ← ofSegments_segments t, own, whole, ofSegments_append]

/-- With segments **left out**, what remains of a text was there before. -/
theorem ofSegments_sublist {parts parts' : List (List Char)} (h : parts.Sublist parts') :
    (ofSegments parts).Sublist (ofSegments parts') := by
  induction h with
  | slnil => exact .slnil
  | @cons parts rest part fewer ih =>
      cases rest with
      | nil =>
          rw [List.sublist_nil.mp fewer]
          exact List.nil_sublist _
      | cons next rest =>
          -- The slash goes with the segment that is left out.
          rw [ofSegments_cons_cons]
          exact ih.trans (.trans (List.sublist_cons_self _ _) (List.sublist_append_right _ _))
  | @cons_cons parts rest part fewer ih =>
      cases parts with
      | nil =>
          cases rest with
          | nil => exact .refl _
          | cons next rest =>
              rw [ofSegments_cons_cons, ofSegments, List.intercalate_singleton]
              exact List.sublist_append_left _ _
      | cons first parts =>
          have more : rest ≠ [] := by
            rintro rfl
            cases fewer
          obtain ⟨next, rest, rfl⟩ := List.exists_cons_of_ne_nil more
          rw [ofSegments_cons_cons, ofSegments_cons_cons]
          exact (List.Sublist.refl part).append (ih.cons_cons '/')

theorem segments_eq_singleton {s : List Char} (h : '/' ∉ s) : segments s = [s] :=
  List.splitOn_eq_singleton h

end Dispatch.Text
