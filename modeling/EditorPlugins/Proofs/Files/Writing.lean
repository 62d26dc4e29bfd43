/-
  What stays the same when files are written into a directory that is there.

  Making a directory that is there already changes nothing (`makeDirectories_of_isDirectory`), so
  saving a dictionary in it writes one file or none.  Then the directories are the same as before,
  and every other directory has the same names in it (`namesBelow_write`).
-/
import Mathlib.Data.List.Basic
import EditorPlugins.Proofs.Files.Tree

namespace EditorPlugins.Files

variable {f g h : Files} {p q : Path}

/-! ## Ways one after the other -/

/-- A dot at the end of a way does not count. -/
theorem Leads.of_dot {links : Nat} {at_ : Place} {names : List String} {s : Spot}
    (h : Leads f links at_ (names ++ ["."]) s) : Leads f links at_ names s := by
  generalize hall : names ++ ["."] = all at h
  induction h generalizing names with
  | here => exact absurd hall (List.append_ne_nil_of_right_ne_nil _ (List.cons_ne_nil _ _))
  | dot hrest ih =>
    cases names with
    | nil =>
      cases hall
      exact hrest
    | cons name names =>
      cases hall
      exact .dot (ih rfl)
  | up _ ih =>
    cases names with
    | nil => exact absurd (List.cons.inj hall).1 (by decide)
    | cons name names =>
      cases hall
      exact .up (ih rfl)
  | down hname hat _ ih =>
    cases names with
    | nil =>
      cases hall
      exact absurd rfl hname.notDot
    | cons name names =>
      cases hall
      exact .down hname hat (ih rfl)
  | through hname hat _ ih =>
    cases names with
    | nil =>
      cases hall
      exact absurd rfl hname.notDot
    | cons name names =>
      cases hall
      exact .through hname hat (ih (List.append_assoc ..))
  | file hname _ | missing hname _ =>
    cases names with
    | nil =>
      cases hall
      exact absurd rfl hname.notDot
    | cons name names =>
      exact absurd (List.cons.inj hall).2
        (List.append_ne_nil_of_right_ne_nil _ (List.cons_ne_nil _ _))

/-- A way goes on from the directory that its first part leads to. -/
theorem Leads.append {links : Nat} {at_ dir : Place} {names : List String}
    (h : Leads f links at_ names (.directory dir)) :
    ∃ left, ∀ rest s, Leads f left dir rest s → Leads f links at_ (names ++ rest) s := by
  generalize hs : Spot.directory dir = s at h
  induction h with
  | @here links at_ =>
    cases hs
    exact ⟨links, fun _ _ hrest => hrest⟩
  | dot _ ih =>
    obtain ⟨left, hleft⟩ := ih hs
    exact ⟨left, fun rest s hrest => .dot (hleft rest s hrest)⟩
  | up _ ih =>
    obtain ⟨left, hleft⟩ := ih hs
    exact ⟨left, fun rest s hrest => .up (hleft rest s hrest)⟩
  | down hname hat _ ih =>
    obtain ⟨left, hleft⟩ := ih hs
    exact ⟨left, fun rest s hrest => .down hname hat (hleft rest s hrest)⟩
  | through hname hat _ ih =>
    obtain ⟨left, hleft⟩ := ih hs
    refine ⟨left, fun rest s hrest => .through hname hat ?_⟩
    have hfollowed := hleft rest s hrest
    rw [List.append_assoc] at hfollowed
    exact hfollowed
  | file | missing => cases hs

/-- A way leads to one end. -/
theorem Leads.unique {links : Nat} {at_ : Place} {names : List String} {s s' : Spot}
    (h : Leads f links at_ names s) (h' : Leads f links at_ names s') : s = s' := by
  have hwalk := walk_of_leads h
  rw [walk_of_leads h'] at hwalk
  exact (Except.ok.inj hwalk).symm

/-! ## Directories that are there -/

theorem exists_of_isDirectory (h : f.isDirectory p = true) :
    ∃ dir, f.locate p = .ok (.directory dir) := by
  unfold isDirectory at h
  split at h
  · exact ⟨_, by assumption⟩
  · cases h

/-- What is there is not made. -/
theorem makeDirectory_of_isDirectory (hp : f.isDirectory p = true) :
    ∃ e, f.makeDirectory p = .error e := by
  unfold makeDirectory
  cases hvacant : f.vacant p with
  | error e => exact ⟨e, rfl⟩
  | ok place =>
    -- the path would lead to nothing
    obtain ⟨names, at_, name, hnames, hname, hleads, rfl, hnone⟩ := exists_of_vacant hvacant
    obtain ⟨left, hleft⟩ := hleads.of_dot.append
    have hmissing := hleft [name] _ (.missing hname hnone)
    rw [← hnames] at hmissing
    obtain ⟨dir, hdir⟩ := exists_of_isDirectory hp
    have hsteps := (locate_eq_ok.1 hdir).2
    unfold steps at hsteps
    dsimp only at hsteps
    split at hsteps
    · cases hsteps.of_dot.unique hmissing
    · cases hsteps.unique hmissing

theorem makeDirectories_of_isDirectory (hp : f.isDirectory p = true) :
    f.makeDirectories p = (f, none) := by
  unfold makeDirectories makeDirectoriesFrom
  split
  · rfl
  · obtain ⟨e, he⟩ := makeDirectory_of_isDirectory hp
    have hensure : f.ensureDirectory p = .ok f := by
      unfold ensureDirectory
      rw [he]
      dsimp only
      rw [hp]
      rfl
    rw [hensure]

/-! ## Lists of names -/

/-- A directory is one still, and nothing else has become one. -/
theorem OnlyFiles.isDirectory_eq (hfg : OnlyFiles f g) (p : Path) :
    g.isDirectory p = f.isDirectory p := by
  have hiff : ∀ {f : Files}, f.isDirectory p = true ↔ ∃ dir, f.locate p = .ok (.directory dir) := by
    intro f
    refine ⟨exists_of_isDirectory, ?_⟩
    rintro ⟨dir, hdir⟩
    unfold isDirectory
    rw [hdir]
  refine Bool.eq_iff_iff.2 (hiff.trans (Iff.trans ?_ hiff.symm))
  constructor
  · rintro ⟨dir, hdir⟩
    exact ⟨dir, locate_of_onlyFiles hfg hdir⟩
  · rintro ⟨dir, hdir⟩
    exact ⟨dir, locate_of_grows hfg.grows hdir⟩

theorem write_eq_put {bytes : ByteArray} (h : f.write p bytes = .ok g) :
    ∃ at_, f.target? p = some at_ ∧ g = f.put at_ (.file bytes) := by
  unfold write at h
  unfold target?
  cases hs : f.locate p with
  | error e => rw [hs] at h; cases h
  | ok s =>
    rw [hs] at h
    cases s with
    | directory at_ => cases h
    | file at_ old => cases h; exact ⟨at_, rfl, rfl⟩
    | missing at_ => cases h; exact ⟨at_, rfl, rfl⟩

/-- The name of an entry, if it stands directly below a place. -/
def nameBelow (at_ : Place) (x : Place × Entry) : Option String :=
  match x.1.getLast? with
  | some name => if x.1.dropLast == at_ then some name else none
  | none => none

/-- Names that are in order already. -/
theorem namesBelow_of_sorted {at_ : Place} {names : List String}
    (h : f.entries.filterMap (nameBelow at_) = names) (hsorted : names.Pairwise (· ≤ ·)) :
    f.namesBelow at_ = names := by
  have hsort : f.namesBelow at_
      = (f.entries.filterMap (nameBelow at_)).mergeSort (fun a b => decide (a ≤ b)) := rfl
  rw [hsort, h]
  exact List.mergeSort_of_pairwise (hsorted.imp fun hle => decide_eq_true hle)

/-- What is seen of entries is the same with another entry at a place of which nothing is seen. -/
theorem filterMap_put {α : Type} {seen : Place × Entry → Option α} {at_ : Place}
    (hnothing : ∀ x, x.1 = at_ → seen x = none) (e : Entry) (entries : List (Place × Entry)) :
    ((at_, e) :: entries.filter (fun x => x.1 != at_)).filterMap seen = entries.filterMap seen := by
  rw [List.filterMap_cons_none (hnothing (at_, e) rfl), List.filterMap_filter]
  refine List.filterMap_congr fun x _ => ?_
  by_cases hx : x.1 = at_
  · rw [if_neg (by simpa using hx), hnothing x hx]
  · rw [if_pos (by simpa using hx)]

/-- What is put elsewhere does not change the names in a directory. -/
theorem namesBelow_put (f : Files) {at_ dir : Place} (hat : at_.dropLast ≠ dir) (e : Entry) :
    (f.put at_ e).namesBelow dir = f.namesBelow dir := by
  have hnot : (at_.dropLast == dir) = false := beq_eq_false_iff_ne.2 hat
  have hnothing : ∀ x : Place × Entry, x.1 = at_ → nameBelow dir x = none := by
    rintro x rfl
    unfold nameBelow
    split
    · rw [hnot]
      rfl
    · rfl
  exact congrArg (fun names : List String => names.mergeSort (fun a b => decide (a ≤ b)))
    (filterMap_put hnothing e f.entries)

theorem namesBelow_write {bytes : ByteArray} (h : f.write p bytes = .ok g) {dir : Place}
    (hdir : ∀ at_, f.target? p = some at_ → at_.dropLast ≠ dir) :
    g.namesBelow dir = f.namesBelow dir := by
  obtain ⟨at_, htarget, rfl⟩ := write_eq_put h
  exact namesBelow_put f (hdir at_ htarget) _

/-! ## Writes one after the other -/

/-- Some files are written one after the other. -/
inductive Rewritten (written : Path → Prop) : Files → Files → Prop where
  | refl (f : Files) : Rewritten written f f
  | write {f g h : Files} {p : Path} {bytes : ByteArray} (hp : written p)
      (hw : f.write p bytes = .ok g) (hrest : Rewritten written g h) : Rewritten written f h

section Rewriting

variable {written : Path → Prop}

theorem Rewritten.mono {written' : Path → Prop} (hwritten : ∀ p, written p → written' p)
    (hfg : Rewritten written f g) : Rewritten written' f g := by
  induction hfg with
  | refl f => exact .refl f
  | write hp hw _ ih => exact .write (hwritten _ hp) hw ih

theorem Rewritten.trans (hfg : Rewritten written f g) (hgh : Rewritten written g h) :
    Rewritten written f h := by
  induction hfg with
  | refl f => exact hgh
  | write hp hw _ ih => exact .write hp hw (ih hgh)

theorem Rewritten.onlyFiles (hfg : Rewritten written f g) : OnlyFiles f g := by
  induction hfg with
  | refl f => exact .refl f
  | write _ hw _ ih =>
    obtain ⟨-, hfiles, -⟩ := onlyFiles_of_write hw
    exact hfiles.trans ih

/-- **A path to none of the files that are written leads to the same file.** -/
theorem Rewritten.sameFile (hfg : Rewritten written f g)
    (hapart : ∀ q, written q → ¬ f.SameTarget p q) : SameFile f g p := by
  induction hfg with
  | refl f => exact .refl f p
  | @write f g h q bytes hq hw _ ih =>
    obtain ⟨-, hfiles, -⟩ := onlyFiles_of_write hw
    have hfirst : SameFile f g p :=
      sameFile_write hw fun hsame => hapart q hq (hfiles.sameTarget hsame)
    exact hfirst.trans (ih fun q hq hsame => hapart q hq (hfiles.sameTarget hsame))

/-- A directory that none of the files are in has the same names in it. -/
theorem Rewritten.namesBelow_eq (hfg : Rewritten written f g) {dir : Place}
    (hdir : ∀ q, written q → ∀ at_, f.target? q = some at_ → at_.dropLast ≠ dir) :
    g.namesBelow dir = f.namesBelow dir := by
  induction hfg with
  | refl f => rfl
  | @write f g h q bytes hq hw _ ih =>
    obtain ⟨-, hfiles, -⟩ := onlyFiles_of_write hw
    have hrest := ih fun q hq at_ htarget => hdir q hq at_ (hfiles.target?_eq htarget)
    exact hrest.trans (namesBelow_write hw (hdir q hq))

end Rewriting

end EditorPlugins.Files
