/-
  Versions that are compared as texts.

  A host compares the bounds of a range with its own version as texts, although versions have an
  order of their own, by numbers.  Texts of digits are in the order of the numbers they spell as
  long as they are equally wide: the first digits that differ decide, for the number and for the
  text.  So do the first numbers that differ in two releases whose corresponding numbers are equally
  wide, since what stands before them is the same text.

    program   `Compatibility.admits`, which compares texts
    spec      `SemVer.order`
    crux      digits that are read on from a smaller number give a smaller one, whatever they are
              (`valueFrom_lt`), so that nothing is decided behind the first difference

  Main statement: `Compatibility.admits_iff_between`.
-/
import EditorPlugins.Compatibility
import EditorPlugins.Proofs.Files.Names

namespace EditorPlugins

/-! ## Texts side by side -/

namespace Text

/-- Of two texts that begin equally wide the beginnings decide, unless they are the same. -/
theorem append_lt_append_iff {a b as bs : List Char} (h : a.length = b.length) :
    a ++ as < b ++ bs ↔ a < b ∨ a = b ∧ as < bs := by
  induction a generalizing b with
  | nil =>
    obtain rfl : b = [] := List.length_eq_zero_iff.1 h.symm
    exact ⟨fun hlt => .inr ⟨rfl, hlt⟩, fun hlt => (hlt.resolve_left (List.lt_irrefl _)).2⟩
  | cons c a ih =>
    cases b with
    | nil => cases h
    | cons d b =>
      simp only [List.length_cons, Nat.add_right_cancel_iff] at h
      simp only [List.cons_append, List.cons_lt_cons_iff, ih h, List.cons.injEq, and_or_left,
        or_assoc, and_assoc]

/-- Blanks around a text that has none itself are cut away. -/
theorem trimChars_append {before cs after : List Char} (hbefore : ∀ c ∈ before, isBlank c = true)
    (hafter : ∀ c ∈ after, isBlank c = true) (hcs : ∀ c ∈ cs, isBlank c = false) :
    trimChars (before ++ (cs ++ after)) = cs := by
  have hnone : ∀ l : List Char, (∀ c ∈ l, isBlank c = false) → l.dropWhile isBlank = l := by
    intro l hl
    cases l with
    | nil => rfl
    | cons c r => exact List.dropWhile_cons_of_neg (Bool.eq_false_iff.1 (hl c List.mem_cons_self))
  unfold trimChars trimBy
  rw [List.dropWhile_append_of_pos hbefore]
  by_cases hnil : cs = []
  · rw [hnil, List.nil_append, dropWhile_eq_nil_of_all (List.all_eq_true.2 hafter)]
    rfl
  · have hfront : (cs ++ after).dropWhile isBlank = cs ++ after := by
      cases cs with
      | nil => exact absurd rfl hnil
      | cons c r =>
        exact List.dropWhile_cons_of_neg (Bool.eq_false_iff.1 (hcs c List.mem_cons_self))
    rw [hfront, List.reverse_append,
      List.dropWhile_append_of_pos (fun c hc => hafter c (List.mem_reverse.1 hc)),
      hnone cs.reverse (fun c hc => hcs c (List.mem_reverse.1 hc)), List.reverse_reverse]

end Text

namespace SemVer

/-! ## Digits -/

/-- The number that digits spell when they are read on from a number. -/
def valueFrom (n : Nat) (ds : List Char) : Nat := ds.foldl (fun n c => n * 10 + (c.toNat - 0x30)) n

theorem valueFrom_cons (n : Nat) (c : Char) (ds : List Char) :
    valueFrom n (c :: ds) = valueFrom (n * 10 + (c.toNat - 0x30)) ds := by
  unfold valueFrom
  rw [List.foldl_cons]

theorem toNat_of_isDigit {c : Char} (h : isDigit c = true) : 0x30 ≤ c.toNat ∧ c.toNat ≤ 0x39 := by
  obtain ⟨hlow, hhigh⟩ := Bool.and_eq_true_iff.1 h
  exact ⟨UInt32.le_iff_toNat_le.1 (of_decide_eq_true hlow),
    UInt32.le_iff_toNat_le.1 (of_decide_eq_true hhigh)⟩

/-- **What is read on from a smaller number stays smaller**, with equally many digits. -/
theorem valueFrom_lt {m n : Nat} {ds es : List Char} (h : m < n) (hwidth : ds.length = es.length)
    (hds : ∀ c ∈ ds, isDigit c = true) : valueFrom m ds < valueFrom n es := by
  induction ds generalizing m n es with
  | nil =>
    obtain rfl : es = [] := List.length_eq_zero_iff.1 hwidth.symm
    exact h
  | cons c ds ih =>
    cases es with
    | nil => cases hwidth
    | cons d es =>
      have hc := toNat_of_isDigit (hds c List.mem_cons_self)
      replace hds := (List.forall_mem_cons.1 hds).2
      rw [List.length_cons, List.length_cons, Nat.add_right_cancel_iff] at hwidth
      rw [valueFrom_cons, valueFrom_cons]
      exact ih (by omega) hwidth hds

/-- Digits that are equally many are in the order of what they spell. -/
theorem valueFrom_lt_iff {n : Nat} {ds es : List Char} (hwidth : ds.length = es.length)
    (hds : ∀ c ∈ ds, isDigit c = true) (hes : ∀ c ∈ es, isDigit c = true) :
    valueFrom n ds < valueFrom n es ↔ ds < es := by
  induction ds generalizing n es with
  | nil =>
    obtain rfl : es = [] := List.length_eq_zero_iff.1 hwidth.symm
    exact iff_of_false (Nat.lt_irrefl _) (List.lt_irrefl _)
  | cons c ds ih =>
    cases es with
    | nil => cases hwidth
    | cons d es =>
      have hc := toNat_of_isDigit (hds c List.mem_cons_self)
      have hd := toNat_of_isDigit (hes d List.mem_cons_self)
      replace hds := (List.forall_mem_cons.1 hds).2
      replace hes := (List.forall_mem_cons.1 hes).2
      rw [List.length_cons, List.length_cons, Nat.add_right_cancel_iff] at hwidth
      rw [valueFrom_cons, valueFrom_cons, List.cons_lt_cons_iff]
      rcases Nat.lt_trichotomy c.toNat d.toNat with hlt | heq | hgt
      · exact iff_of_true (valueFrom_lt (by omega) hwidth hds) (.inl hlt)
      · obtain rfl : c = d := Char.toNat_inj.1 heq
        rw [ih hwidth hds hes]
        exact ⟨fun h => .inr ⟨rfl, h⟩, fun h => (h.resolve_left (Nat.lt_irrefl _)).2⟩
      · have hback : valueFrom (n * 10 + (d.toNat - 0x30)) es
            < valueFrom (n * 10 + (c.toNat - 0x30)) ds :=
          valueFrom_lt (by omega) hwidth.symm hes
        refine iff_of_false (Nat.lt_asymm hback) ?_
        rintro (hlt | ⟨rfl, -⟩)
        · exact Nat.lt_asymm hgt hlt
        · exact Nat.lt_irrefl _ hgt

section Numbers

variable {ds es : List Char} (hwidth : ds.length = es.length)
  (hds : ∀ c ∈ ds, isDigit c = true) (hes : ∀ c ∈ es, isDigit c = true)
include hwidth hds hes

theorem valueOf_lt_iff : valueOf ds < valueOf es ↔ ds < es := valueFrom_lt_iff hwidth hds hes

/-- Digits that are equally many are known from what they spell. -/
theorem valueOf_inj : valueOf ds = valueOf es ↔ ds = es := by
  refine ⟨fun heq => ?_, fun heq => by rw [heq]⟩
  rcases Std.lt_trichotomy ds es with hlt | hsame | hgt
  · exact absurd heq (Nat.ne_of_lt ((valueOf_lt_iff hwidth hds hes).2 hlt))
  · exact hsame
  · exact absurd heq (Nat.ne_of_gt ((valueOf_lt_iff hwidth.symm hes hds).2 hgt))

end Numbers

/-! ## Releases -/

/-- Neither a pre-release part nor build data. -/
def IsRelease (v : SemVer) : Prop := v.pre = [] ∧ v.build = []

/-- With how many characters the parts of a version between the points are written. -/
def widths (s : String) : List Nat := (Text.pieces '.' s).map String.length

/-- A text is three numbers with points between them, and spells a release. -/
structure Spells (s : String) (v : SemVer) (major minor patch : List Char) : Prop where
  text : s.toList = major ++ '.' :: (minor ++ '.' :: patch)
  majorDigits : ∀ c ∈ major, isDigit c = true
  minorDigits : ∀ c ∈ minor, isDigit c = true
  patchDigits : ∀ c ∈ patch, isDigit c = true
  value : v = ⟨valueOf major, valueOf minor, valueOf patch, [], []⟩

theorem point_not_mem {ds : List Char} (h : ∀ c ∈ ds, isDigit c = true) : '.' ∉ ds :=
  fun hpoint => absurd (h _ hpoint) (by decide)

/-- A number begins a text with its digits. -/
theorem readNumber_eq_some {cs rest : List Char} {n : Nat} (h : readNumber cs = some (n, rest)) :
    ∃ ds, cs = ds ++ rest ∧ (∀ c ∈ ds, isDigit c = true) ∧ n = valueOf ds := by
  unfold readNumber at h
  dsimp only at h
  split at h
  · cases h
  split at h
  · cases h
  split at h
  · cases h
    refine ⟨cs.takeWhile isDigit, List.takeWhile_append_dropWhile.symm, fun c hc => ?_, rfl⟩
    exact List.mem_takeWhile_imp hc
  · cases h

theorem readPoint_eq_some {cs rest : List Char} (h : readPoint cs = some rest) :
    cs = '.' :: rest := by
  unfold readPoint at h
  split at h
  · cases h
    rfl
  · cases h

/-- There is at least one identifier. -/
theorem readIdentifiers_ne_nil {ok : List Char → Bool} {cs : List Char} {ids : List String}
    (h : readIdentifiers ok cs = some ids) : ids ≠ [] := by
  unfold readIdentifiers at h
  dsimp only at h
  split at h
  · cases h
    intro hnil
    have hlength := Text.length_piecesChars '.' cs
    rw [List.map_eq_nil_iff.1 hnil] at hlength
    cases hlength
  · cases h

/-- Nothing stands behind the numbers of a release. -/
theorem eq_nil_of_readSuffix {cs : List Char} (h : readSuffix cs = some ([], [])) : cs = [] := by
  unfold readSuffix at h
  split at h
  · rfl
  · obtain ⟨pre, hpre, hrest⟩ := Option.bind_eq_some_iff.1 h
    split at hrest
    · cases hrest
      exact absurd rfl (readIdentifiers_ne_nil hpre)
    · obtain ⟨build, -, hboth⟩ := Option.bind_eq_some_iff.1 hrest
      cases hboth
      exact absurd rfl (readIdentifiers_ne_nil hpre)
  · obtain ⟨build, hbuild, hboth⟩ := Option.bind_eq_some_iff.1 h
    cases hboth
    exact absurd rfl (readIdentifiers_ne_nil hbuild)
  · cases h

/-- **A release is spelled by its three numbers.** -/
theorem spells_of_parse? {s : String} {v : SemVer} (h : parse? s = some v) (hv : v.IsRelease) :
    ∃ major minor patch, Spells s v major minor patch := by
  obtain ⟨⟨x, r₁⟩, hx, h⟩ := Option.bind_eq_some_iff.1 h
  obtain ⟨r₂, hpoint, h⟩ := Option.bind_eq_some_iff.1 h
  obtain ⟨⟨y, r₃⟩, hy, h⟩ := Option.bind_eq_some_iff.1 h
  obtain ⟨r₄, hpoint', h⟩ := Option.bind_eq_some_iff.1 h
  obtain ⟨⟨z, r₅⟩, hz, h⟩ := Option.bind_eq_some_iff.1 h
  obtain ⟨⟨pre, build⟩, hsuffix, h⟩ := Option.bind_eq_some_iff.1 h
  cases h
  obtain ⟨rfl, rfl⟩ : pre = [] ∧ build = [] := hv
  obtain ⟨major, hmajor, hmajorDigits, rfl⟩ := readNumber_eq_some hx
  obtain ⟨minor, hminor, hminorDigits, rfl⟩ := readNumber_eq_some hy
  obtain ⟨patch, hpatch, hpatchDigits, rfl⟩ := readNumber_eq_some hz
  refine ⟨major, minor, patch, ?_, hmajorDigits, hminorDigits, hpatchDigits, rfl⟩
  rw [hmajor, readPoint_eq_some hpoint, hminor, readPoint_eq_some hpoint', hpatch,
    eq_nil_of_readSuffix hsuffix, List.append_nil]

section Two

variable {s t : String} {u v : SemVer} {a b c a' b' c' : List Char}

theorem Spells.widths_eq (h : Spells s u a b c) : widths s = [a.length, b.length, c.length] := by
  unfold widths Text.pieces
  rw [h.text, Text.piecesChars_append_cons, Text.piecesChars_append_cons,
    Text.piecesChars_of_not_mem (point_not_mem h.majorDigits),
    Text.piecesChars_of_not_mem (point_not_mem h.minorDigits),
    Text.piecesChars_of_not_mem (point_not_mem h.patchDigits)]
  simp only [List.singleton_append, List.map_cons, List.map_nil, String.length_ofList]

/-- Releases are ordered by their numbers, the first ones first. -/
theorem order_of_release (hu : u.IsRelease) (hv : v.IsRelease) : u.order v
    = (compare u.major v.major).then ((compare u.minor v.minor).then
      (compare u.patch v.patch)) := by
  unfold order
  rw [hu.1, hu.2, hv.1, hv.2]
  simp only [comparePreLists, compareLists, Ordering.then_eq]

theorem Spells.isRelease (h : Spells s u a b c) : u.IsRelease := by
  rw [h.value]
  exact ⟨rfl, rfl⟩

/-- **Releases whose numbers are equally wide are in the order of their texts.** -/
theorem Spells.order_eq_lt_iff (hu : Spells s u a b c) (hv : Spells t v a' b' c')
    (hwidths : widths s = widths t) : u.order v = .lt ↔ s < t := by
  rw [hu.widths_eq, hv.widths_eq] at hwidths
  simp only [List.cons.injEq, and_true] at hwidths
  obtain ⟨ha, hb, hc⟩ := hwidths
  have hpoint : ∀ {as bs : List Char}, '.' :: as < '.' :: bs ↔ as < bs :=
    List.cons_lt_cons_self
  show _ ↔ s.toList < t.toList
  rw [order_of_release hu.isRelease hv.isRelease, hu.text, hv.text,
    Text.append_lt_append_iff ha, hpoint, Text.append_lt_append_iff hb, hpoint, hu.value, hv.value]
  simp only [Ordering.then_eq_lt, Nat.compare_eq_lt, Nat.compare_eq_eq]
  rw [valueOf_lt_iff ha hu.majorDigits hv.majorDigits, valueOf_inj ha hu.majorDigits hv.majorDigits,
    valueOf_lt_iff hb hu.minorDigits hv.minorDigits, valueOf_inj hb hu.minorDigits hv.minorDigits,
    valueOf_lt_iff hc hu.patchDigits hv.patchDigits]

/-- The order the other way round. -/
theorem order_eq_gt_iff (hu : u.IsRelease) (hv : v.IsRelease) :
    u.order v = .gt ↔ v.order u = .lt := by
  rw [order_of_release hu hv, order_of_release hv hu, ← Ordering.swap_eq_lt]
  simp only [Ordering.swap_then, Nat.compare_swap]

/-- Of a release's text no character is a blank or a comma. -/
theorem Spells.mem_text (h : Spells s u a b c) {x : Char} (hx : x ∈ s.toList) :
    isDigit x = true ∨ x = '.' := by
  rw [h.text] at hx
  simp only [List.mem_append, List.mem_cons] at hx
  rcases hx with hx | rfl | hx | rfl | hx
  · exact .inl (h.majorDigits x hx)
  · exact .inr rfl
  · exact .inl (h.minorDigits x hx)
  · exact .inr rfl
  · exact .inl (h.patchDigits x hx)

end Two

end SemVer

/-! ## Ranges -/

namespace Compatibility

/-- A range is two bounds in brackets, with nothing but blanks around them. -/
def IsRange (range min max : String) : Prop := ∃ a b c d : String,
  (∀ blanks ∈ [a, b, c, d], Text.isBlankText blanks = true) ∧
    range = "[" ++ a ++ min ++ b ++ "," ++ c ++ max ++ d ++ "]"

/-- A bound that is found as it was written: no comma ends it, and no blank is cut away. -/
def IsBound (s : String) : Prop := ∀ c ∈ s.toList, c ≠ ',' ∧ Text.isBlank c = false

theorem isBound_of_spells {s : String} {v : SemVer} {a b c : List Char}
    (h : SemVer.Spells s v a b c) : IsBound s := by
  intro x hx
  rcases h.mem_text hx with hdigit | rfl
  · obtain ⟨hlow, hhigh⟩ := SemVer.toNat_of_isDigit hdigit
    refine ⟨?_, ?_⟩
    · rintro rfl
      exact absurd hlow (by decide)
    · simp only [Text.isBlank, Bool.or_eq_false_iff, Bool.and_eq_false_iff,
        decide_eq_false_iff_not, beq_eq_false_iff_ne]
      omega
  · decide

/-- **The bounds of a range are found without the blanks around them.** -/
theorem bounds?_of_isRange {range min max : String} (h : IsRange range min max)
    (hmin : IsBound min) (hmax : IsBound max) : bounds? range = some (min, max) := by
  obtain ⟨a, b, c, d, hblanks, rfl⟩ := h
  have hblank : ∀ blanks ∈ [a, b, c, d], ∀ x ∈ blanks.toList, Text.isBlank x = true :=
    fun blanks hmem => List.all_eq_true.1 (hblanks blanks hmem)
  simp only [List.forall_mem_cons, List.not_mem_nil, false_implies, implies_true, and_true]
    at hblank
  obtain ⟨ha, hb, hc, hd⟩ := hblank
  have hcomma : ∀ {before bound after : String}, (∀ x ∈ before.toList, Text.isBlank x = true) →
      IsBound bound → (∀ x ∈ after.toList, Text.isBlank x = true) →
      ',' ∉ before.toList ++ (bound.toList ++ after.toList) := by
    intro before bound after hbefore hbound hafter hmem
    simp only [List.mem_append] at hmem
    rcases hmem with hmem | hmem | hmem
    · exact absurd (hbefore _ hmem) (by decide)
    · exact (hbound _ hmem).1 rfl
    · exact absurd (hafter _ hmem) (by decide)
  have hpieces : Text.piecesChars ',' (a.toList ++ (min.toList ++ b.toList)
        ++ ',' :: (c.toList ++ (max.toList ++ d.toList)))
      = [a.toList ++ (min.toList ++ b.toList), c.toList ++ (max.toList ++ d.toList)] := by
    rw [Text.piecesChars_append_cons, Text.piecesChars_of_not_mem (hcomma ha hmin hb),
      Text.piecesChars_of_not_mem (hcomma hc hmax hd), List.singleton_append]
  have hrange : ("[" ++ a ++ min ++ b ++ "," ++ c ++ max ++ d ++ "]").toList
      = '[' :: ((a.toList ++ (min.toList ++ b.toList)
        ++ ',' :: (c.toList ++ (max.toList ++ d.toList))) ++ [']']) := by
    simp only [String.toList_append, List.append_assoc, List.cons_append]
    rfl
  unfold bounds?
  simp only [hrange, List.getLast?_concat, List.dropLast_concat, hpieces, if_true,
    Text.trimChars_append ha hb (fun x hx => (hmin x hx).2),
    Text.trimChars_append hc hd (fun x hx => (hmax x hx).2), String.ofList_toList]

/-- **Between equally wide bounds a version lies where its text lies.**  For releases whose
corresponding numbers are written with equally many digits the order of texts decides as the order
of versions does, and no difference between the two is reported. -/
theorem admits_iff_between {range min max host : String} {low high v : SemVer}
    (hrange : IsRange range min max) (hlow : SemVer.parse? min = some low)
    (hhigh : SemVer.parse? max = some high) (hv : SemVer.parse? host = some v)
    (hreleases : low.IsRelease ∧ high.IsRelease ∧ v.IsRelease)
    (hmin : SemVer.widths min = SemVer.widths host)
    (hmax : SemVer.widths max = SemVer.widths host) :
    (admits range host = true ↔ low.order v ≠ .gt ∧ v.order high ≠ .gt) ∧
      disagrees range host = false := by
  obtain ⟨hlowRelease, hhighRelease, hvRelease⟩ := hreleases
  obtain ⟨_, _, _, hlowSpelled⟩ := SemVer.spells_of_parse? hlow hlowRelease
  obtain ⟨_, _, _, hhighSpelled⟩ := SemVer.spells_of_parse? hhigh hhighRelease
  obtain ⟨_, _, _, hvSpelled⟩ := SemVer.spells_of_parse? hv hvRelease
  have hbounds : bounds? range = some (min, max) :=
    bounds?_of_isRange hrange (isBound_of_spells hlowSpelled) (isBound_of_spells hhighSpelled)
  -- a text lies behind a bound if the bound does not lie behind it
  have hbelow : v.order low = .lt ↔ host < min :=
    hvSpelled.order_eq_lt_iff hlowSpelled hmin.symm
  have habove : v.order high = .gt ↔ max < host := by
    rw [SemVer.order_eq_gt_iff hvRelease hhighRelease]
    exact hhighSpelled.order_eq_lt_iff hvSpelled hmax
  have htexts : betweenTexts min max host = true ↔ ¬ host < min ∧ ¬ max < host := by
    unfold betweenTexts
    simp only [Bool.and_eq_true, decide_eq_true_eq, String.not_lt]
  have hversions : SemVer.isBetween low high v = true ↔ ¬ host < min ∧ ¬ max < host := by
    unfold SemVer.isBetween
    simp only [Bool.and_eq_true, bne_iff_ne, ne_eq, hbelow, habove]
  refine ⟨?_, ?_⟩
  · unfold admits
    rw [hbounds]
    show betweenTexts min max host = true ↔ _
    rw [htexts, ne_eq, ne_eq, habove, SemVer.order_eq_gt_iff hlowRelease hvRelease, hbelow]
  · have hsame : SemVer.isBetween low high v = betweenTexts min max host :=
      Bool.eq_iff_iff.2 (hversions.trans htexts.symm)
    have hbetween : betweenVersions? min max host = some (SemVer.isBetween low high v) := by
      unfold betweenVersions?
      rw [hlow, hhigh, hv]
      rfl
    unfold disagrees
    rw [hbounds]
    simp only [hbetween, hsame, bne_self_eq_false]

/-- Two-digit numbers, in a range with blanks of several kinds. -/
theorem inner_admitted :
    IsRange "[ 1.10.0,　 1.42.9	]" "1.10.0" "1.42.9" ∧
    SemVer.widths "1.10.0" = SemVer.widths "1.37.5" ∧
    SemVer.widths "1.42.9" = SemVer.widths "1.37.5" ∧
    admits "[ 1.10.0,　 1.42.9	]" "1.37.5" = true ∧
    disagrees "[ 1.10.0,　 1.42.9	]" "1.37.5" = false := by
  have hrange : IsRange "[ 1.10.0,　 1.42.9	]" "1.10.0" "1.42.9" :=
    ⟨" ", "", "　 ", "	", by decide +kernel, by decide +kernel⟩
  have hlow : SemVer.parse? "1.10.0" = some ⟨1, 10, 0, [], []⟩ := by decide +kernel
  have hhigh : SemVer.parse? "1.42.9" = some ⟨1, 42, 9, [], []⟩ := by decide +kernel
  have hv : SemVer.parse? "1.37.5" = some ⟨1, 37, 5, [], []⟩ := by decide +kernel
  have hmin : SemVer.widths "1.10.0" = SemVer.widths "1.37.5" := by decide +kernel
  have hmax : SemVer.widths "1.42.9" = SemVer.widths "1.37.5" := by decide +kernel
  obtain ⟨hadmits, hagree⟩ :=
    admits_iff_between hrange hlow hhigh hv ⟨⟨rfl, rfl⟩, ⟨rfl, rfl⟩, ⟨rfl, rfl⟩⟩ hmin hmax
  exact ⟨hrange, hmin, hmax, hadmits.2 (by decide +kernel), hagree⟩

end Compatibility

end EditorPlugins
