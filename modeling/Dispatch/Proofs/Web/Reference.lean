import Dispatch.Proofs.Declaration
import Dispatch.Proofs.Web.Percent
import Dispatch.Web.Url.Reading
import Mathlib.Data.List.DropRight
import Mathlib.Data.List.TakeWhile

/-!
# Where a reference leads

A reference that begins with a segment of simple characters is a path to follow from the place of
the address that it is in, and stays on the same machine. What it leads to is that place up to some
segment, and from there on segments of the reference in encoded form, which they can be read off.

## Main definitions

* `Url.IsStem`: a first segment that is no more than itself.
* `Url.cleanedEnd`, `Url.pathText`, `Url.queryText`: what counts of a text behind it, and the parts
  that are read as a path and as a query.
* `Url.ComesFrom`: a part of a path that a segment has become.

## Main results

* `Url.join_stem`: where a reference leads.
* `Url.walk_eq`: what a walk along segments comes to.
* `Url.decodeText_encoded`: a segment is read off its encoded form.
* `Url.parse_isHierarchical`: which addresses have a path of segments.
-/

namespace Dispatch.Url

open Text

variable {base url : Url} {scheme : String} {authority : Authority} {path : Path}
  {special given : Bool} {p : Char → Bool} {c : Char}
  {cs front rest stem segment : List Char} {segs : List (List Char)} {place : List String}

/-! ### Cutting -/

theorem cut_cons_of_neg (no : p c = false) (cs : List Char) :
    cut p (c :: cs) = (c :: (cut p cs).1, (cut p cs).2) := by
  simp only [cut, List.takeWhile_cons, no, Bool.not_false, if_true, List.length_cons,
    List.drop_succ_cons]
  split <;> rfl

/-- A text begins with what has no mark in it, **however it goes on**. -/
theorem cut_append (none_in : ∀ c ∈ front, p c = false) (rest : List Char) :
    cut p (front ++ rest) = (front ++ (cut p rest).1, (cut p rest).2) := by
  induction front with
  | nil => rfl
  | cons c front ih =>
      obtain ⟨no, none_in⟩ := List.forall_mem_cons.mp none_in
      rw [List.cons_append, cut_cons_of_neg no, ih none_in]
      rfl

theorem cut_of_none (none_in : ∀ c ∈ cs, p c = false) : cut p cs = (cs, none) := by
  have whole := cut_append none_in []
  rw [List.append_nil] at whole
  rw [whole]
  simp [cut]

theorem mem_cut (mem : c ∈ (cut p cs).1) : c ∈ cs ∧ p c = false := by
  have front : (cut p cs).1 = cs.takeWhile (!p ·) := by
    rw [cut]
    split <;> rfl
  rw [front] at mem
  exact ⟨(List.takeWhile_prefix _).subset mem, by simpa using List.mem_takeWhile_imp mem⟩

/-! ### Cleaning -/

/-- A line break or a tab, which does not count in an address. -/
def isSkipped (c : Char) : Bool := c = '\t' || c = '\n' || c = '\r'

/-- What counts of a text that **ends an address**: all but the margin at its end, line breaks and
tabs. -/
def cleanedEnd (cs : List Char) : List Char := (cs.rdropWhile isMargin).filter (!isSkipped ·)

theorem isMargin_of_isSkipped (skipped : isSkipped c = true) : isMargin c = true := by
  simp only [isSkipped, Bool.or_eq_true, decide_eq_true_eq] at skipped
  rcases skipped with (rfl | rfl) | rfl <;> decide

theorem filter_isSkipped (counts : ∀ c ∈ cs, isMargin c = false) :
    cs.filter (!isSkipped ·) = cs := by
  refine List.filter_eq_self.mpr fun c mem => ?_
  cases skipped : isSkipped c with
  | false => rfl
  | true =>
      have margin := isMargin_of_isSkipped skipped
      rw [counts c mem] at margin
      cases margin

theorem rdropWhile_append_cons (no : p c = false) (front cs : List Char) :
    (front ++ c :: cs).rdropWhile p = front ++ c :: cs.rdropWhile p := by
  rw [List.rdropWhile, List.rdropWhile, List.reverse_append, List.reverse_cons, List.append_assoc,
    List.dropWhile_append, List.singleton_append, List.dropWhile_cons_of_neg (by simp [no])]
  split
  · next all => simp [List.isEmpty_iff.mp all]
  · simp

/-- The beginning of an address **stays** if all of it counts. -/
theorem cleaned_append (counts : ∀ d ∈ front ++ [c], isMargin d = false) (cs : List Char) :
    cleaned (front ++ c :: cs) = front ++ c :: cleanedEnd cs := by
  have begins : (front ++ c :: cs).dropWhile isMargin = front ++ c :: cs := by
    cases front with
    | nil => exact List.dropWhile_cons_of_neg (by simp [counts c])
    | cons d front => exact List.dropWhile_cons_of_neg (by simp [counts d])
  have skips : (fun c => decide (c ≠ '\t') && decide (c ≠ '\n') && decide (c ≠ '\r')) =
      (!isSkipped ·) := by
    funext c
    simp [isSkipped]
  have stays := filter_isSkipped counts
  rw [cleaned, begins, ← List.rdropWhile, rdropWhile_append_cons (counts c (by simp)), skips,
    List.append_cons, List.filter_append, stays, cleanedEnd, List.append_assoc,
    List.singleton_append]

theorem mem_cleanedEnd (mem : c ∈ cleanedEnd cs) : c ∈ cs ∧ isSkipped c = false := by
  obtain ⟨mem, counts⟩ := List.mem_filter.mp mem
  exact ⟨(List.rdropWhile_prefix isMargin cs).subset mem, by simpa using counts⟩

/-! ### Segments -/

theorem divide_of_none (none_in : ∀ c ∈ cs, isDivider special c = false) :
    divide special cs = [cs] := by
  have noSlash : '/' ∉ cs := fun mem => by
    have slash := none_in '/' mem
    simp [isDivider] at slash
  have same : cs.map (fun c => if isDivider special c then '/' else c) = cs :=
    (List.map_congr_left fun c mem => by simp [none_in c mem]).trans (List.map_id' cs)
  rw [divide, same, segments_eq_singleton noSlash]

/-- A text is divided at its **first divider**, and then what follows is. -/
theorem divide_cons (none_in : ∀ c ∈ front, isDivider special c = false) (rest : List Char) :
    divide special (front ++ '/' :: rest) = front :: divide special rest := by
  have first := divide_of_none none_in
  rw [divide] at first
  have slash : isDivider special '/' = true := by simp [isDivider]
  rw [divide, List.map_append, List.map_cons, if_pos slash, segments,
    List.splitOn_append_cons_self, ← segments, ← segments, first, ← divide]
  rfl

/-- A segment has **no characters but those of the text**, and no divider. -/
theorem mem_divide (part : segment ∈ divide special cs) (mem : c ∈ segment) :
    c ∈ cs ∧ isDivider special c = false := by
  have whole := ofSegments_sublist (List.singleton_sublist.mpr part)
  rw [divide, ofSegments_segments] at whole
  have noSlash : c ≠ '/' := fun slash => notMem_of_mem_segments part (slash ▸ mem)
  obtain ⟨d, inside, same⟩ := List.mem_map.mp (whole.subset (by simpa [ofSegments] using mem))
  split at same
  · exact absurd same.symm noSlash
  · next plain => exact same ▸ ⟨inside, by simpa using plain⟩

/-! ### Walking -/

theorem decodedPoints_of_plain (plain : '%' ∉ cs) : decodedPoints cs = cs := by
  fun_induction decodedPoints cs with
  | case1 cs ih => simp at plain
  | case2 cs ih => simp at plain
  | case3 c cs first second ih => rw [ih (List.not_mem_of_not_mem_cons plain)]
  | case4 => rfl

/-- A segment that does not begin with a point **leads down**. -/
theorem leadsDown (plain : '%' ∉ segment) (first : segment.head? ≠ some '.') :
    isUp segment = false ∧ isHere segment = false := by
  rw [isUp, isHere, decodedPoints_of_plain plain]
  constructor <;> simp only [decide_eq_false_iff_not] <;> rintro rfl <;> exact first rfl

theorem walk_last (down : isUp segment = false ∧ isHere segment = false) (place : List String) :
    walk place [segment] = place ++ [encoded staysInPath segment] := by
  simp [walk, down.1, down.2]

theorem walk_next (down : isUp segment = false ∧ isHere segment = false) (place : List String)
    (more : segs ≠ []) :
    walk place (segment :: segs) = walk (place ++ [encoded staysInPath segment]) segs := by
  obtain ⟨next, rest, rfl⟩ := List.exists_cons_of_ne_nil more
  simp [walk, down.1, down.2]

/-- A part of a path **comes from** segments if it is empty or one of them in encoded form. -/
def ComesFrom (segs : List (List Char)) (part : String) : Prop :=
  part = "" ∨ ∃ segment ∈ segs, part = encoded staysInPath segment

theorem ComesFrom.cons {part : String} (h : ComesFrom segs part) (segment : List Char) :
    ComesFrom (segment :: segs) part :=
  h.imp_right fun ⟨own, mem, same⟩ => ⟨own, List.mem_cons_of_mem _ mem, same⟩

/-- **What a walk comes to**: the place up to some segment, and from there on what comes from the
segments of the walk. -/
theorem walk_eq (place : List String) (segs : List (List Char)) : ∃ keep pushed,
    walk place segs = keep ++ pushed ∧ keep <+: place ∧ ∀ part ∈ pushed, ComesFrom segs part := by
  fun_induction walk place segs with
  | case1 place => exact ⟨place, [], by simp, List.prefix_rfl, by simp⟩
  | case2 place last up =>
      exact ⟨place.dropLast, [""], rfl, List.dropLast_prefix place, by simp [ComesFrom]⟩
  | case3 place last _ here => exact ⟨place, [""], rfl, List.prefix_rfl, by simp [ComesFrom]⟩
  | case4 place last _ _ => exact ⟨place, [_], rfl, List.prefix_rfl, by simp [ComesFrom]⟩
  | case5 place segment next rest up ih =>
      obtain ⟨keep, pushed, whole, within, parts⟩ := ih
      exact ⟨keep, pushed, whole, within.trans (List.dropLast_prefix place),
        fun part mem => (parts part mem).cons segment⟩
  | case6 place segment next rest _ here ih =>
      obtain ⟨keep, pushed, whole, within, parts⟩ := ih
      exact ⟨keep, pushed, whole, within, fun part mem => (parts part mem).cons segment⟩
  | case7 place segment next rest _ _ ih =>
      obtain ⟨keep, pushed, whole, within, parts⟩ := ih
      have later (part : String) (mem : part ∈ pushed) : ComesFrom (segment :: next :: rest) part :=
        (parts part mem).cons segment
      -- What is pushed now is kept, or it is gone again with all that came after it.
      rcases List.prefix_concat_iff.mp within with rfl | within
      · refine ⟨place, encoded staysInPath segment :: pushed, by simp [whole], List.prefix_rfl, ?_⟩
        exact List.forall_mem_cons.mpr ⟨.inr ⟨segment, List.mem_cons_self, rfl⟩, later⟩
      · exact ⟨keep, pushed, whole, within, later⟩

/-- What a walk **adds to its place** comes from the segments of the walk. -/
theorem comesFrom_of_walk {more : List String} (h : walk place segs = place ++ more) :
    ∀ part ∈ more, ComesFrom segs part := by
  obtain ⟨keep, pushed, whole, ⟨gone, rfl⟩, parts⟩ := walk_eq place segs
  rw [h, List.append_assoc] at whole
  obtain rfl := List.append_cancel_left whole
  exact fun part mem => parts part (List.mem_append_right gone mem)

/-! ### Encoded segments -/

/-- A segment without percent signs **is read off** its encoded form. -/
theorem decodeText_encoded {stays : Char → Bool} (plain : '%' ∉ segment) :
    Percent.decodeText (encoded stays segment) = String.ofList segment :=
  Percent.decodeText_encode fun _ => by rwa [String.toList_ofList]

/-- Different segments without percent signs have **different encoded forms**. -/
theorem encoded_injective {stays : Char → Bool} {segment' : List Char} (plain : '%' ∉ segment)
    (plain' : '%' ∉ segment') (same : encoded stays segment = encoded stays segment') :
    segment = segment' := by
  have read := congrArg Percent.decodeText same
  rw [decodeText_encoded plain, decodeText_encoded plain'] at read
  exact String.ofList_injective read

/-- A segment without percent signs **is read off** what has become of it. -/
theorem ComesFrom.mem {part text : String} (h : ComesFrom segs part)
    (plain : ∀ segment ∈ segs, '%' ∉ segment) (read : Percent.decodeText part = text)
    (some_char : text ≠ "") : text.toList ∈ segs := by
  rcases h with rfl | ⟨segment, mem, rfl⟩
  · exact absurd (read.symm.trans (by decide +kernel)) some_char
  · rw [decodeText_encoded (plain segment mem)] at read
    rwa [← read, String.toList_ofList]

theorem slash_notMem_encoded {stays : Char → Bool} (noSlash : '/' ∉ segment) :
    '/' ∉ (encoded stays segment).toList := by
  rw [encoded, String.toList_ofList]
  exact Percent.notMem_encode (by decide) (by decide) (by rwa [String.toList_ofList])

/-! ### Joining -/

/-- A **simple** character is no more than itself wherever it stands in the path of a reference. -/
def isSimple (c : Char) : Bool := staysInPath c && !"%./\\:".toList.contains c

/-- A **stem** is a first segment of simple characters. -/
def IsStem (stem : List Char) : Prop := stem ≠ [] ∧ ∀ c ∈ stem, isSimple c = true

instance (stem : List Char) : Decidable (IsStem stem) :=
  decidable_of_iff (stem ≠ [] ∧ stem.all isSimple = true) (by rw [List.all_eq_true, IsStem])

/-- The part of a reference that is read as **its path**. -/
def pathText (cs : List Char) : List Char := (cut (· = '?') (cut (· = '#') cs).1).1

/-- The part of a reference that is read as **its query**. -/
def queryText (cs : List Char) : Option (List Char) := (cut (· = '?') (cut (· = '#') cs).1).2

theorem isSimple_iff : isSimple c = true ↔ 0x21 ≤ c.toNat ∧ c.toNat ≤ 0x7E ∧
    c ∉ "\"#<>?`\x7b\x7d".toList ∧ c ∉ "%./\\:".toList := by
  simp [isSimple, staysInPath, Host.isVisible]
  tauto

namespace IsStem

theorem notMargin (h : IsStem stem) : ∀ c ∈ stem ++ ['/'], isMargin c = false := by
  intro c mem
  simp only [isMargin, decide_eq_false_iff_not]
  rcases List.mem_append.mp mem with mem | mem
  · have := (isSimple_iff.mp (h.2 c mem)).1
    omega
  · rw [List.mem_singleton.mp mem]
    decide

theorem noDivider (h : IsStem stem) : ∀ c ∈ stem, isDivider special c = false := by
  intro c mem
  have apart := (isSimple_iff.mp (h.2 c mem)).2.2.2
  simp_all [isDivider]

theorem encoded_eq (h : IsStem stem) : encoded staysInPath stem = String.ofList stem := by
  refine congrArg String.ofList (Percent.encode_of_stays fun c mem => ?_)
  have simple := h.2 c mem
  have visible := (isSimple_iff.mp simple).2.1
  rw [isSimple, Bool.and_eq_true] at simple
  exact ⟨by omega, simple.1⟩

theorem down (h : IsStem stem) : isUp stem = false ∧ isHere stem = false := by
  have apart : ∀ c ∈ stem, c ∉ "%./\\:".toList := fun c mem => (isSimple_iff.mp (h.2 c mem)).2.2.2
  refine leadsDown (fun mem => apart _ mem (by decide)) fun first => ?_
  exact apart '.' (List.mem_of_mem_head? first) (by decide)

theorem cut_eq (h : IsStem stem) (mark : Char) (own : mark ∈ "#?:".toList) (cs : List Char) :
    cut (· = mark) (stem ++ '/' :: cs) =
      (stem ++ '/' :: (cut (· = mark) cs).1, (cut (· = mark) cs).2) := by
  have none_in : ∀ c ∈ stem ++ ['/'], decide (c = mark) = false := by
    intro c mem
    rw [decide_eq_false_iff_not]
    rintro rfl
    rcases List.mem_append.mp mem with mem | mem
    · obtain ⟨-, -, apart, apart'⟩ := isSimple_iff.mp (h.2 c mem)
      simp_all
    · rw [List.mem_singleton.mp mem] at own
      exact absurd own (by decide)
  simpa using cut_append none_in cs

/-- A text with a stem has **no scheme**. -/
theorem scheme?_eq (h : IsStem stem) (cs : List Char) : scheme? (stem ++ '/' :: cs) = none := by
  have slash : isSchemeChar '/' = false := by decide
  rw [scheme?, h.cut_eq ':' (by decide)]
  split
  · next front rest same =>
    obtain ⟨rfl, -⟩ := Prod.mk.inj same
    rw [if_neg]
    simp [slash]
  · rfl

/-- A text with a stem leads on **from the place** of the base. -/
theorem relative_stem (h : IsStem stem) (base : Url) (given : Bool) (cs : List Char) :
    relative base given (stem ++ '/' :: cs) = .ok (located base.scheme base.authority
      (.segments (walk (base.path.place ++ [String.ofList stem])
        (divide (isSpecial base.scheme) cs)))) := by
  obtain ⟨c, stem', rfl⟩ := List.exists_cons_of_ne_nil h.1
  have noSlashes : dividers (isSpecial base.scheme) (c :: stem' ++ '/' :: cs) = 0 := by
    rw [dividers, List.cons_append,
      List.takeWhile_cons_of_neg (by simp [h.noDivider c List.mem_cons_self]), List.length_nil]
  have more : divide (isSpecial base.scheme) cs ≠ [] := segments_ne_nil _
  rw [relative]
  simp only [noSlashes]
  rw [divide_cons h.noDivider, walk_next h.down _ more, h.encoded_eq]
  rfl

end IsStem

/-- A base without a hierarchy **leads nowhere**. -/
theorem join_stem_opaque {text : String} (flat : base.path = .opaqueText text)
    (h : IsStem stem) {reference : String} (begins : reference.toList = stem ++ '/' :: cs) :
    base.join reference = .error .opaqueBase := by
  rw [join, resolve, begins, cleaned_append h.notMargin]
  simp only [h.cut_eq '#' (by decide), h.cut_eq '?' (by decide),
    h.scheme?_eq, flat]
  simp [throw, throwThe, MonadExceptOf.throw, bind, Except.bind]

/-- **Where a reference leads** that begins with a stem. -/
theorem join_stem {parts : List String} (hierarchy : base.path = .segments parts)
    (h : IsStem stem) {reference : String} (begins : reference.toList = stem ++ '/' :: cs) :
    ∃ url, base.join reference = .ok url ∧
      url.scheme = base.scheme ∧ url.authority = base.authority ∧
      url.path = .segments (walk (base.path.place ++ [String.ofList stem])
        (divide (isSpecial base.scheme) (pathText (cleanedEnd cs)))) ∧
      url.query =
        (queryText (cleanedEnd cs)).map (encoded (staysInQuery (isSpecial base.scheme))) := by
  rw [join, resolve, begins, cleaned_append h.notMargin]
  simp only [h.cut_eq '#' (by decide), h.cut_eq '?' (by decide),
    h.scheme?_eq, hierarchy]
  rw [h.relative_stem]
  exact ⟨_, rfl, rfl, rfl, by rw [located, hierarchy]; rfl, Option.or_none⟩

/-! ### Hierarchies -/

/-- An address **has a hierarchy** if its path consists of segments. -/
def IsHierarchical (url : Url) : Prop := ∃ parts, url.path = .segments parts

theorem absolutePath_segments (special : Bool) (cs : List Char) :
    ∃ parts, absolutePath special cs = .segments parts := by
  cases cs <;> exact ⟨_, rfl⟩

theorem fromAuthority_segments (h : fromAuthority scheme cs = .ok (authority, path)) :
    ∃ parts, path = .segments parts := by
  obtain ⟨_, -, h⟩ := Except.bind_eq_ok.mp h
  obtain ⟨-, rfl⟩ := Prod.mk.inj (Except.ok.inj h)
  exact absolutePath_segments _ _

theorem relative_isHierarchical (own : base.IsHierarchical)
    (h : relative base given cs = .ok url) : url.IsHierarchical := by
  rw [relative] at h
  dsimp only at h
  split at h
  · obtain rfl := Except.ok.inj h
    exact own
  split at h
  · obtain ⟨⟨authority, path⟩, found, h⟩ := Except.bind_eq_ok.mp h
    obtain rfl := Except.ok.inj h
    exact fromAuthority_segments found
  split at h
  · obtain ⟨authority, -, h⟩ := Except.bind_eq_ok.mp h
    obtain rfl := Except.ok.inj h
    exact absolutePath_segments _ _
  split at h
  · obtain rfl := Except.ok.inj h
    exact absolutePath_segments _ _
  · obtain rfl := Except.ok.inj h
    exact ⟨_, rfl⟩

theorem absolute_isHierarchical (h : absolute none scheme given cs = .ok url)
    (special : isSpecial url.scheme = true) : url.IsHierarchical := by
  unfold absolute at h
  dsimp only [Option.filter_none, Option.getD_none] at h
  split at h
  · exact relative_isHierarchical ⟨_, rfl⟩ h
  split at h
  · obtain ⟨⟨authority, path⟩, found, h⟩ := Except.bind_eq_ok.mp h
    obtain rfl := Except.ok.inj h
    exact fromAuthority_segments found
  next plain =>
  split at h
  · obtain ⟨⟨authority, path⟩, found, h⟩ := Except.bind_eq_ok.mp h
    obtain rfl := Except.ok.inj h
    exact fromAuthority_segments found
  · obtain rfl := Except.ok.inj h
    exact ⟨_, rfl⟩
  · obtain rfl := Except.ok.inj h
    exact absurd special plain

/-- An address that is read on its own **has a hierarchy** if its scheme asks for one. -/
theorem parse_isHierarchical {s : String} (h : parse s = .ok url)
    (special : isSpecial url.scheme = true) : url.IsHierarchical := by
  rw [parse, resolve] at h
  generalize cut (· = '#') (cleaned s.toList) = first at h
  dsimp only at h
  generalize cut (· = '?') first.1 = second at h
  split at h
  · obtain ⟨found, read, h⟩ := Except.bind_eq_ok.mp h
    have same := Except.ok.inj h
    have scheme : url.scheme = found.scheme := by rw [← same]
    have path : url.path = found.path := by rw [← same]
    rw [scheme] at special
    rw [IsHierarchical, path]
    exact absolute_isHierarchical read special
  · cases h
  · next absent => cases absent

end Dispatch.Url
