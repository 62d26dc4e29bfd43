/-
  The names on a path.

  A walk along a path passes through the pieces of its spelling that are not empty, `.` and `..`
  among them (`Path.names`).  Two constructions on paths are described by their names.  The path of
  a file in a directory has the name of the file after those of the directory.  The path of the
  parent, along which missing directories are looked for, lacks the last name, and the dots that
  stand around it.

  Main statements: `names_div`, `names_of_parent?`, `text_of_parent?`.
-/
import Mathlib.Data.List.DropRight
import EditorPlugins.Files.Basic

namespace EditorPlugins

namespace Text

theorem piecesChars_cons_of_ne {sep c : Char} (hc : c ≠ sep) (r : List Char) :
    ∃ piece pieces, piecesChars sep r = piece :: pieces ∧
      piecesChars sep (c :: r) = (c :: piece) :: pieces := by
  rw [piecesChars, if_neg hc]
  cases hpieces : piecesChars sep r with
  | nil =>
    have hlength := length_piecesChars sep r
    rw [hpieces] at hlength
    cases hlength
  | cons piece pieces => exact ⟨piece, pieces, rfl, rfl⟩

/-- The pieces of a text are what the library's `splitOn` gives. -/
theorem piecesChars_eq (sep : Char) (s : List Char) : piecesChars sep s = s.splitOn sep := by
  rw [List.splitOn_eq_splitOnP]
  induction s with
  | nil => rfl
  | cons c r ih =>
    rw [List.splitOnP_cons_eq_if_modifyHead, ← ih]
    by_cases hc : c = sep
    · rw [piecesChars, if_pos hc, if_pos (beq_iff_eq.2 hc)]
    · obtain ⟨piece, pieces, hrest, hall⟩ := piecesChars_cons_of_ne hc r
      rw [if_neg (fun heq => hc (beq_iff_eq.1 heq)), hall, hrest]
      rfl

/-- What stands before a separator and behind it is cut on its own. -/
theorem piecesChars_append_cons (sep : Char) (a b : List Char) :
    piecesChars sep (a ++ sep :: b) = piecesChars sep a ++ piecesChars sep b := by
  simp only [piecesChars_eq, List.splitOn_eq_splitOnP]
  exact List.splitOnP_append_cons (p := (· == sep)) a b (beq_self_eq_true sep)

/-- A text without separator is one piece. -/
theorem piecesChars_of_not_mem {sep : Char} {s : List Char} (h : sep ∉ s) :
    piecesChars sep s = [s] := by
  rw [piecesChars_eq, List.splitOn_eq_splitOnP]
  refine List.splitOnP_eq_singleton fun c hc => ?_
  exact beq_eq_false_iff_ne.2 fun hsep => h (hsep ▸ hc)

/-- The characters of a piece are characters of the text, and none is a separator. -/
theorem mem_of_mem_piecesChars {sep c : Char} {s piece : List Char}
    (h : piece ∈ piecesChars sep s) (hc : c ∈ piece) : c ∈ s ∧ c ≠ sep := by
  induction s generalizing piece with
  | nil =>
    rw [List.mem_singleton.1 h] at hc
    cases hc
  | cons d r ih =>
    have hlater : ∀ {piece}, piece ∈ piecesChars sep r → c ∈ piece → c ∈ d :: r ∧ c ≠ sep :=
      fun hpiece hmem => ⟨List.mem_cons_of_mem _ (ih hpiece hmem).1, (ih hpiece hmem).2⟩
    by_cases hd : d = sep
    · rw [piecesChars, if_pos hd] at h
      rcases List.mem_cons.1 h with rfl | hrest
      · cases hc
      · exact hlater hrest hc
    · obtain ⟨first, pieces, hrest, hall⟩ := piecesChars_cons_of_ne hd r
      rw [hall] at h
      rw [hrest] at hlater
      rcases List.mem_cons.1 h with rfl | hmem
      · rcases List.mem_cons.1 hc with rfl | htail
        · exact ⟨List.mem_cons_self, hd⟩
        · exact hlater List.mem_cons_self htail
      · exact hlater (List.mem_cons_of_mem _ hmem) hc

theorem not_mem_of_mem_piecesChars {sep : Char} {s piece : List Char}
    (h : piece ∈ piecesChars sep s) : sep ∉ piece :=
  fun hsep => (mem_of_mem_piecesChars h hsep).2 rfl

end Text

namespace Path

/-! ## Names in a spelling -/

/-- The pieces that are not empty. -/
def namesIn (cs : List Char) : List (List Char) := (cs.splitOn '/').filter (· ≠ [])

/-- The names that a path leads through. -/
def names (p : Path) : List String := (namesIn p.text.toList).map String.ofList

theorem joinPieces_single (a : List Char) : joinPieces [a] = a := List.append_nil a

theorem joinPieces_cons_cons (a b : List Char) (rest : List (List Char)) :
    joinPieces (a :: b :: rest) = a ++ '/' :: joinPieces (b :: rest) := rfl

theorem namesIn_append (a b : List Char) : namesIn (a ++ '/' :: b) = namesIn a ++ namesIn b := by
  unfold namesIn
  simp only [← Text.piecesChars_eq, Text.piecesChars_append_cons, List.filter_append]

theorem namesIn_joinPieces {pieces : List (List Char)} (h : ∀ piece ∈ pieces, '/' ∉ piece) :
    namesIn (joinPieces pieces) = pieces.filter (· ≠ []) := by
  unfold namesIn joinPieces
  by_cases hnil : pieces = []
  · subst hnil
    rfl
  · rw [List.splitOn_intercalate '/' h hnil]

theorem names_eq (p : Path) : (Text.pieces '/' p.text).filter (· ≠ "") = p.names := by
  unfold Text.pieces names namesIn
  rw [Text.piecesChars_eq, List.filter_map]
  congr 1
  refine List.filter_congr fun piece _ => ?_
  refine decide_eq_decide.2 (not_congr ?_)
  exact ⟨fun h => by simpa using congrArg String.toList h, fun h => by rw [h]⟩

/-- The steps along a path go through its names; a separator at the end is a last dot. -/
theorem steps_cases (p : Path) : Files.steps p = p.names ∨ Files.steps p = p.names ++ ["."] := by
  unfold Files.steps
  rw [names_eq]
  dsimp only
  split
  · exact .inr rfl
  · exact .inl rfl

/-! ## A file in a directory -/

/-- A name without separators is relative. -/
theorem not_isAbsolute_of_name {name : String} (h : '/' ∉ name.toList) :
    isAbsolute ⟨name⟩ = false := by
  refine Bool.eq_false_iff.2 fun habsolute => h ?_
  obtain ⟨rest, hrest⟩ := List.head?_eq_some_iff.1 (beq_iff_eq.1 habsolute)
  rw [hrest]
  exact List.mem_cons_self

/-- How a relative path taken from a directory is spelled: with a separator between the two, if
there is none. -/
theorem join_text_cases (dir : Path) {p : Path} (h : p.isAbsolute = false) :
    dir.text.toList = [] ∧ (join dir p).text.toList = p.text.toList ∨
    ∃ front, (dir.text.toList = front ++ ['/'] ∨ dir.text.toList = front ∧ front ≠ []) ∧
      (join dir p).text.toList = front ++ '/' :: p.text.toList := by
  unfold join
  rw [h, if_neg Bool.false_ne_true]
  dsimp only
  split
  · rename_i hend
    rw [String.toList_append]
    rcases Bool.or_eq_true_iff.1 hend with hempty | hslash
    · have hnil := List.isEmpty_iff.1 hempty
      exact .inl ⟨hnil, by rw [hnil, List.nil_append]⟩
    · obtain ⟨front, hfront⟩ := List.getLast?_eq_some_iff.1 (beq_iff_eq.1 hslash)
      exact .inr ⟨front, .inl hfront, by rw [hfront, List.append_assoc, List.singleton_append]⟩
  · rename_i hend
    have hne : dir.text.toList ≠ [] := fun hnil => hend (by rw [hnil]; rfl)
    refine .inr ⟨_, .inr ⟨rfl, hne⟩, ?_⟩
    rw [String.toList_append, String.toList_append, List.append_assoc]
    rfl

/-- Only idle pieces are dropped at the end, -/
theorem dropIdleEnd_append (pieces : List (List Char)) :
    ∃ idle, pieces = dropIdleEnd pieces ++ idle ∧ ∀ piece ∈ idle, isIdle piece = true := by
  refine ⟨(pieces.reverse.takeWhile isIdle).reverse, ?_, fun piece hpiece => ?_⟩
  · have hsplit := congrArg List.reverse
      (List.takeWhile_append_dropWhile (p := isIdle) (l := pieces.reverse))
    rw [List.reverse_append, List.reverse_reverse] at hsplit
    exact hsplit.symm
  · exact List.mem_takeWhile_imp (List.mem_reverse.1 hpiece)

/-- and all of them. -/
theorem not_isIdle_getLast {pieces : List (List Char)} (h : dropIdleEnd pieces ≠ []) :
    ¬ isIdle ((dropIdleEnd pieces).getLast h) = true :=
  List.rdropWhile_last_not isIdle pieces h

theorem names_of_idle {idle : List (List Char)} (h : ∀ piece ∈ idle, isIdle piece = true) :
    ∀ name ∈ (idle.filter (· ≠ [])).map String.ofList, name = "." := by
  intro name hname
  obtain ⟨piece, hpiece, rfl⟩ := List.mem_map.1 hname
  obtain ⟨hmem, hne⟩ := List.mem_filter.1 hpiece
  have hidle := h piece hmem
  unfold isIdle at hidle
  rcases Bool.or_eq_true_iff.1 hidle with hempty | hdot
  · exact absurd (List.isEmpty_iff.1 hempty) (of_decide_eq_true hne)
  · rw [beq_iff_eq.1 hdot]

/-- The first of some pieces put together are the beginning of all of them put together. -/
theorem joinPieces_prefix {first all : List (List Char)} (h : first <+: all) :
    joinPieces first <+: joinPieces all := by
  obtain ⟨rest, rfl⟩ := h
  induction first with
  | nil => exact List.nil_prefix
  | cons a first ih =>
    cases first with
    | cons b first =>
      rw [List.cons_append, List.cons_append, joinPieces_cons_cons, joinPieces_cons_cons]
      exact (List.prefix_append_right_inj a).2 (List.cons_prefix_cons.2 ⟨rfl, ih⟩)
    | nil =>
      cases rest with
      | nil => exact List.prefix_refl _
      | cons b rest =>
        rw [List.cons_append, List.nil_append, joinPieces_cons_cons, joinPieces_single]
        exact List.prefix_append a _

/-- The names of a base. -/
def Base.names : Base → List (List Char)
  | current => [['.']]
  | root | nothing => []

theorem splitBase_text (cs : List Char) : (splitBase cs).1.text ++ (splitBase cs).2 = cs := by
  unfold splitBase
  split <;> rfl

/-- After a leading dot there is nothing or a separator. -/
theorem splitBase_current {cs : List Char} (h : (splitBase cs).1 = .current) :
    (splitBase cs).2 = [] ∨ ∃ rest, (splitBase cs).2 = '/' :: rest := by
  unfold splitBase at h ⊢
  split at h
  · cases h
  · exact .inl rfl
  · exact .inr ⟨_, rfl⟩
  · cases h

/-- **The names in a base and some first pieces after it.** -/
theorem namesIn_base {cs : List Char} {pieces : List (List Char)}
    (h : pieces <+: Text.piecesChars '/' (splitBase cs).2) :
    namesIn ((splitBase cs).1.text ++ joinPieces pieces)
      = (splitBase cs).1.names ++ pieces.filter (· ≠ []) := by
  have hfree : ∀ piece ∈ pieces, '/' ∉ piece := fun piece hpiece =>
    Text.not_mem_of_mem_piecesChars (h.subset hpiece)
  cases hbase : (splitBase cs).1 with
  | nothing => exact namesIn_joinPieces hfree
  | root => exact (namesIn_append [] _).trans (namesIn_joinPieces hfree)
  | current =>
    cases pieces with
    | nil => rfl
    | cons piece pieces =>
      -- the first piece is the empty one before the separator
      have hfirst : piece = [] := by
        rcases splitBase_current hbase with hnil | ⟨rest, hrest⟩
        · rw [hnil] at h
          exact (List.cons_prefix_cons.1 h).1
        · rw [hrest, Text.piecesChars, if_pos rfl] at h
          exact (List.cons_prefix_cons.1 h).1
      subst hfirst
      cases pieces with
      | nil => rfl
      | cons piece pieces =>
        have hnames := namesIn_joinPieces fun piece hpiece =>
          hfree piece (List.mem_cons_of_mem _ hpiece)
        exact (namesIn_append ['.'] (joinPieces (piece :: pieces))).trans (congrArg _ hnames)

/-- The text of a path is its base and all the pieces after it. -/
theorem base_append_joinPieces (p : Path) :
    (splitBase p.text.toList).1.text ++ joinPieces p.piecesAfterBase = p.text.toList := by
  unfold joinPieces piecesAfterBase
  rw [Text.piecesChars_eq, List.intercalate_splitOn]
  exact splitBase_text _

/-- The names of a path are those of its base and the pieces after it. -/
theorem namesIn_text (p : Path) : namesIn p.text.toList
    = (splitBase p.text.toList).1.names ++ p.piecesAfterBase.filter (· ≠ []) :=
  (congrArg namesIn (base_append_joinPieces p)).symm.trans (namesIn_base (List.prefix_refl _))

/-- What is left out of a path to get its parent: the last piece that is not idle, and the idle ones
around it. -/
theorem exists_of_parent? {p parent : Path} (h : p.parent? = some parent)
    (hparent : parent.text ≠ "") :
    ∃ first before name after, p.piecesAfterBase = first ++ (before ++ name :: after) ∧
      parent.text.toList = (splitBase p.text.toList).1.text ++ joinPieces first ∧ name ≠ [] ∧
      ∀ piece ∈ before ++ after, isIdle piece = true := by
  obtain ⟨after, hafter, hidleAfter⟩ := dropIdleEnd_append p.piecesAfterBase
  obtain ⟨before, hbefore, hidleBefore⟩ :=
    dropIdleEnd_append (dropIdleEnd p.piecesAfterBase).dropLast
  unfold parent? at h
  dsimp only at h
  split at h
  · split at h
    · cases h
      exact absurd rfl hparent
    · cases h
  · rename_i hnot
    have hpieces : dropIdleEnd p.piecesAfterBase ≠ [] := fun hnil => hnot (List.isEmpty_iff.2 hnil)
    have hlast := not_isIdle_getLast hpieces
    cases h
    refine ⟨_, before, (dropIdleEnd p.piecesAfterBase).getLast hpieces, after, ?_,
      String.toList_ofList, fun hnil => ?_, fun piece hpiece => ?_⟩
    · calc p.piecesAfterBase
          = dropIdleEnd p.piecesAfterBase ++ after := hafter
        _ = ((dropIdleEnd p.piecesAfterBase).dropLast
              ++ [(dropIdleEnd p.piecesAfterBase).getLast hpieces]) ++ after := by
            rw [List.dropLast_append_getLast hpieces]
        _ = (dropIdleEnd (dropIdleEnd p.piecesAfterBase).dropLast ++ before)
              ++ [(dropIdleEnd p.piecesAfterBase).getLast hpieces] ++ after := by
            rw [← hbefore]
        _ = _ := by simp only [List.append_assoc, List.singleton_append]
    · rw [hnil] at hlast
      exact hlast rfl
    · exact (List.mem_append.1 hpiece).elim (hidleBefore piece) (hidleAfter piece)

/-- The spelling of a path begins with that of its parent. -/
theorem text_of_parent? {p parent : Path} (h : p.parent? = some parent) :
    ∃ rest, p.text = parent.text ++ String.ofList rest := by
  suffices hprefix : parent.text.toList <+: p.text.toList by
    obtain ⟨rest, hrest⟩ := hprefix
    refine ⟨rest, String.toList_inj.1 ?_⟩
    rw [String.toList_append, String.toList_ofList, hrest]
  by_cases hparent : parent.text = ""
  · rw [hparent]
    exact List.nil_prefix
  · obtain ⟨first, before, name, after, hpieces, htext, -⟩ := exists_of_parent? h hparent
    have hfirst : first <+: p.piecesAfterBase := ⟨_, hpieces.symm⟩
    have hjoined := joinPieces_prefix hfirst
    have hbegins := (List.prefix_append_right_inj (splitBase p.text.toList).1.text).2 hjoined
    rwa [base_append_joinPieces, ← htext] at hbegins

/-- **The parent of a path** starts where the path does, and lacks its last name and the dots
around that. -/
theorem names_of_parent? {p parent : Path} (h : p.parent? = some parent)
    (hparent : parent.text ≠ "") :
    parent.isAbsolute = p.isAbsolute ∧
    ∃ before name after, p.names = parent.names ++ (before ++ name :: after) ∧
      ∀ dot ∈ before ++ after, dot = "." := by
  obtain ⟨first, before, name, after, hpieces, htext, hname, hidle⟩ := exists_of_parent? h hparent
  have hfirst : first <+: p.piecesAfterBase := ⟨_, hpieces.symm⟩
  refine ⟨?_, (before.filter (· ≠ [])).map String.ofList, String.ofList name,
    (after.filter (· ≠ [])).map String.ofList, ?_, fun dot hdot => ?_⟩
  · -- the text of the parent is the beginning of the path's
    obtain ⟨rest, hrest⟩ := text_of_parent? h
    have hnotEmpty : parent.text.toList ≠ [] := fun hnil =>
      hparent (String.toList_eq_nil_iff.1 hnil)
    unfold isAbsolute
    rw [hrest, String.toList_append, List.head?_append_of_ne_nil _ hnotEmpty]
  · have hlast : (name :: after).filter (· ≠ []) = name :: after.filter (· ≠ []) :=
      List.filter_cons_of_pos (decide_eq_true hname)
    unfold names
    rw [htext, namesIn_base hfirst, namesIn_text, hpieces]
    simp only [List.filter_append, List.map_append, List.append_assoc, hlast, List.map_cons]
  · refine names_of_idle hidle dot ?_
    rw [List.filter_append, List.map_append]
    exact hdot

/-- The parent of a path that is not empty is spelled with fewer characters. -/
theorem length_of_parent? {p parent : Path} (h : p.parent? = some parent) (hp : p.text ≠ "") :
    parent.text.length < p.text.length := by
  obtain ⟨rest, hrest⟩ := text_of_parent? h
  have hlength : p.text.length = parent.text.length + rest.length := by
    rw [hrest, String.length_append, String.length_ofList]
  -- otherwise the two would be spelled alike
  have hne : rest ≠ [] := by
    rintro rfl
    have hsame : p.text = parent.text := hrest.trans String.append_empty
    have hparent : parent.text ≠ "" := hsame ▸ hp
    obtain ⟨-, before, name, after, hnames, -⟩ := names_of_parent? h hparent
    have hcount := congrArg List.length hnames
    unfold names at hcount
    rw [hsame] at hcount
    simp only [List.length_append, List.length_cons] at hcount
    omega
  have hpos : 0 < rest.length := List.length_pos_iff.2 hne
  omega

end Path

end EditorPlugins
