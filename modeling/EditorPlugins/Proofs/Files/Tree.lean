/-
  What a path leads to when other files are written and directories are made.

  A write puts bytes at one place, so a path that leads to another place leads to the same file as
  before (`sameFile_write`).  Making directories changes no file either.  But a path that led nowhere
  may lead somewhere when a directory on its way is made, and even to a file that was there before,
  if it steps up out of the new directory.  It does not if the path leads somewhere already, or if
  the entries form a tree and neither the path nor a link steps up: then every directory above the
  file was there before (`leads_of_keeps`).  A path of one of these two kinds is `Settled`.

  Main statements: `sameFile_write`, `Settled.sameFile`, and `sameFile_saveBelow`, which puts them
  together for a dictionary that is saved.
-/
import EditorPlugins.Proofs.Store.Configs

namespace EditorPlugins.Files

/-! ## What is read -/

/-- The path leads to the same file with the same bytes, or in neither file system to one. -/
def SameFile (f g : Files) (p : Path) : Prop := ∀ at_ bytes,
  f.locate p = .ok (.file at_ bytes) ↔ g.locate p = .ok (.file at_ bytes)

/-- The place where a write to the path puts its bytes. -/
def target? (f : Files) (p : Path) : Option Place :=
  match f.locate p with
  | .ok (.file at_ _) | .ok (.missing at_) => some at_
  | .ok (.directory _) | .error _ => none

/-- A write to the one path is a write to the other. -/
def SameTarget (f : Files) (p q : Path) : Prop :=
  ∃ at_, f.target? p = some at_ ∧ f.target? q = some at_

section Reading

variable {f g : Files} {p : Path}

theorem target?_of_file {at_ : Place} {bytes : ByteArray} (h : f.locate p = .ok (.file at_ bytes)) :
    f.target? p = some at_ := by
  unfold target?
  rw [h]

theorem not_sameTarget {q : Path} (h : f.target? p ≠ f.target? q) : ¬ f.SameTarget p q := by
  rintro ⟨at_, hp, hq⟩
  exact h (hp.trans hq.symm)

theorem isFile_iff : f.isFile p = true ↔ ∃ at_ bytes, f.locate p = .ok (.file at_ bytes) := by
  unfold isFile
  constructor
  · intro h
    split at h
    · exact ⟨_, _, by assumption⟩
    · cases h
  · rintro ⟨at_, bytes, h⟩
    rw [h]

theorem SameFile.refl (f : Files) (p : Path) : SameFile f f p := fun _ _ => Iff.rfl

theorem SameFile.trans {h : Files} (hfg : SameFile f g p) (hgh : SameFile g h p) :
    SameFile f h p := fun at_ bytes => (hfg at_ bytes).trans (hgh at_ bytes)

theorem SameFile.isFile_eq (h : SameFile f g p) : g.isFile p = f.isFile p := by
  refine Bool.eq_iff_iff.2 (isFile_iff.trans (Iff.trans ?_ isFile_iff.symm))
  exact exists_congr fun at_ => exists_congr fun bytes => (h at_ bytes).symm

theorem SameFile.readText_eq (h : SameFile f g p) (hfile : f.isFile p = true) :
    g.readText p = f.readText p := by
  obtain ⟨at_, bytes, hlocate⟩ := isFile_iff.1 hfile
  unfold readText
  rw [read_of_locate hlocate, read_of_locate ((h at_ bytes).1 hlocate)]

theorem readText_of_not_isFile (h : f.isFile p = false) : ∃ e, f.readText p = .error e := by
  unfold isFile at h
  unfold readText read
  cases hs : f.locate p with
  | error e => exact ⟨e, rfl⟩
  | ok s =>
    rw [hs] at h
    cases s with
    | file at_ bytes => cases h
    | directory at_ => exact ⟨.isDirectory, rfl⟩
    | missing at_ => exact ⟨.notFound, rfl⟩

/-- The same text is read from both, or none. -/
theorem SameFile.readText_cases (h : SameFile f g p) :
    (∃ text, f.readText p = .ok text ∧ g.readText p = .ok text) ∨
    ∃ e e', f.readText p = .error e ∧ g.readText p = .error e' := by
  cases hfile : f.isFile p with
  | true =>
    rw [h.readText_eq hfile]
    cases f.readText p with
    | ok text => exact .inl ⟨text, rfl, rfl⟩
    | error e => exact .inr ⟨e, e, rfl, rfl⟩
  | false =>
    obtain ⟨e, he⟩ := readText_of_not_isFile hfile
    obtain ⟨e', he'⟩ := readText_of_not_isFile (h.isFile_eq.trans hfile)
    exact .inr ⟨e, e', he, he'⟩

end Reading

/-! ## Writing elsewhere -/

/-- Of the two file systems the second has the bytes of some files changed, and some files more. -/
structure OnlyFiles (f g : Files) : Prop where
  grows : Grows f g
  directory : ∀ at_, g.entryAt at_ = some .directory → f.entryAt at_ = some .directory

section Writing

variable {f g : Files}

theorem OnlyFiles.refl (f : Files) : OnlyFiles f f := ⟨.refl f, fun _ hat => hat⟩

theorem OnlyFiles.trans {h : Files} (hfg : OnlyFiles f g) (hgh : OnlyFiles g h) : OnlyFiles f h :=
  ⟨hfg.grows.trans hgh.grows, fun at_ hat => hfg.directory at_ (hgh.directory at_ hat)⟩

/-- **Without new directories a way leads back to the same place.** -/
theorem Leads.of_onlyFiles (hfg : OnlyFiles f g) {links : Nat} {at_ : Place} {names : List String}
    {s : Spot} (h : Leads g links at_ names s) : Leads f links at_ names (s.within f) :=
  h.carried hfg.directory fun _ _ => hfg.grows.link_iff

theorem locate_of_onlyFiles (hfg : OnlyFiles f g) {p : Path} {s : Spot} (h : g.locate p = .ok s) :
    f.locate p = .ok (s.within f) := by
  obtain ⟨hspelling, hleads⟩ := locate_eq_ok.1 h
  have horigin : g.origin p = f.origin p := by
    unfold origin
    rw [hfg.grows.current]
  exact locate_eq_ok.2 ⟨hspelling, horigin ▸ hleads.of_onlyFiles hfg⟩

/-- A write makes no directory. -/
theorem onlyFiles_of_write {p : Path} {bytes : ByteArray} (h : f.write p bytes = .ok g) :
    ∃ at_, OnlyFiles f g ∧ g.locate p = .ok (.file at_ bytes) ∧
      ∀ other, other ≠ at_ → g.entryAt other = f.entryAt other := by
  obtain ⟨at_, hgrows, hlocate, hothers⟩ := write_eq_ok h
  refine ⟨at_, ⟨hgrows, fun other hdirectory => ?_⟩, hlocate, hothers⟩
  have hne : other ≠ at_ := by
    rintro rfl
    rw [(stands_of_locate hlocate).2] at hdirectory
    cases hdirectory
  rw [← hothers other hne]
  exact hdirectory

/-- **A path that leads elsewhere leads to the same file as before the write.** -/
theorem sameFile_write {p q : Path} {bytes : ByteArray} (h : f.write q bytes = .ok g)
    (hapart : ¬ g.SameTarget p q) : SameFile f g p := by
  obtain ⟨at_, hfg, hlocate, hothers⟩ := onlyFiles_of_write h
  have hplace : ∀ other old, g.locate p = .ok (.file other old) → other ≠ at_ := by
    rintro other old hp rfl
    exact hapart ⟨other, target?_of_file hp, target?_of_file hlocate⟩
  refine fun other old => ⟨fun hp => ?_, fun hp => ?_⟩
  · obtain ⟨new, hnew⟩ := locate_file_of_grows hfg.grows hp
    have hentry := (stands_of_locate hnew).2
    rw [hothers other (hplace other new hnew), (stands_of_locate hp).2] at hentry
    cases hentry
    exact hnew
  · -- the file stands where it stood, with the same bytes
    have hentry : f.entryAt other = some (.file old) := by
      rw [← hothers other (hplace other old hp)]
      exact (stands_of_locate hp).2
    have hback := locate_of_onlyFiles hfg hp
    rw [Spot.within, spotAt, hentry] at hback
    exact hback

/-- Without new directories a path comes to lead to no other place, -/
theorem OnlyFiles.target?_eq (hfg : OnlyFiles f g) {p : Path} {at_ : Place}
    (hp : g.target? p = some at_) : f.target? p = some at_ := by
  unfold target? at hp
  cases hs : g.locate p with
  | error e => rw [hs] at hp; cases hp
  | ok s =>
    rw [hs] at hp
    have hback := locate_of_onlyFiles hfg hs
    have hstands := stands_of_locate hs
    -- neither a directory nor a link was taken away
    have hspot : ∀ place, (∀ e, g.entryAt place = some e → ∃ bytes, e = .file bytes) →
        f.locate p = .ok (f.spotAt place) → f.target? p = some place := by
      intro place hplace hlocate
      unfold target?
      rw [hlocate]
      unfold spotAt
      cases hat : f.entryAt place with
      | none => rfl
      | some e =>
        cases e with
        | file old => rfl
        | directory =>
          obtain ⟨bytes, hbytes⟩ := hplace _ (hfg.grows.directory place hat)
          cases hbytes
        | link target =>
          obtain ⟨bytes, hbytes⟩ := hplace _ (hfg.grows.link place target hat)
          cases hbytes
    cases s with
    | directory place => cases hp
    | file place old =>
      cases hp
      refine hspot _ (fun e he => ?_) hback
      rw [hstands.2] at he
      exact ⟨old, (Option.some.inj he).symm⟩
    | missing place =>
      cases hp
      refine hspot _ (fun e he => ?_) hback
      rw [hstands.2] at he
      cases he

/-- so no two paths come to lead to the same one. -/
theorem OnlyFiles.sameTarget (hfg : OnlyFiles f g) {p q : Path} (hsame : g.SameTarget p q) :
    f.SameTarget p q := by
  obtain ⟨place, hp, hq⟩ := hsame
  exact ⟨place, hfg.target?_eq hp, hfg.target?_eq hq⟩

/-- Of two paths to one place both lead to the file there. -/
theorem SameTarget.exists_file {p q : Path} (h : f.SameTarget p q) {at_ : Place}
    {bytes : ByteArray} (hq : f.locate q = .ok (.file at_ bytes)) :
    ∃ old, f.locate p = .ok (.file at_ old) := by
  obtain ⟨place, hp, hplace⟩ := h
  rw [target?_of_file hq] at hplace
  cases hplace
  unfold target? at hp
  cases hs : f.locate p with
  | error e => rw [hs] at hp; cases hp
  | ok s =>
    rw [hs] at hp
    cases s with
    | directory other => cases hp
    | file other old => cases hp; exact ⟨old, rfl⟩
    | missing other =>
      -- there is a file at the place
      cases hp
      have hnone := (stands_of_locate hs).2
      rw [(stands_of_locate hq).2] at hnone
      cases hnone

/-- Two paths to one file stay two paths to one file. -/
theorem SameTarget.of_grows {p q : Path} (h : f.SameTarget p q) (hfg : Grows f g) {at_ : Place}
    {bytes : ByteArray} (hq : f.locate q = .ok (.file at_ bytes)) : g.SameTarget p q := by
  obtain ⟨old, hold⟩ := h.exists_file hq
  obtain ⟨bytes₁, h₁⟩ := locate_file_of_grows hfg hold
  obtain ⟨bytes₂, h₂⟩ := locate_file_of_grows hfg hq
  exact ⟨at_, target?_of_file h₁, target?_of_file h₂⟩

end Writing

/-! ## Trees -/

/-- Everything stands in a directory, and the current place is one. -/
structure IsTree (f : Files) : Prop where
  current : f.entryAt f.current = some .directory
  parent : ∀ at_ name e, f.entryAt (at_ ++ [name]) = some e → f.entryAt at_ = some .directory

/-- Where a way ends in a tree: at a directory, or below one. -/
def Spot.Below (f : Files) : Spot → Prop
  | .directory at_ => f.entryAt at_ = some .directory
  | .file place _ | .missing place =>
    ∃ at_ name, place = at_ ++ [name] ∧ f.entryAt at_ = some .directory

section Trees

variable {f g : Files}

theorem entryAt_root (f : Files) : f.entryAt [] = some .directory := rfl

theorem IsTree.dropLast (h : f.IsTree) {at_ : Place} (hat : f.entryAt at_ = some .directory) :
    f.entryAt at_.dropLast = some .directory := by
  rcases List.eq_nil_or_concat at_ with rfl | ⟨init, last, rfl⟩
  · exact entryAt_root f
  · rw [List.concat_eq_append] at hat
    rw [List.concat_eq_append, List.dropLast_concat]
    exact h.parent init last _ hat

/-- A way through a tree ends at a directory or below one. -/
theorem IsTree.below_of_leads (h : f.IsTree) {links : Nat} {at_ : Place} {names : List String}
    {s : Spot} (hs : Leads f links at_ names s) (hat : f.entryAt at_ = some .directory) :
    s.Below f := by
  induction hs with
  | here => exact hat
  | dot _ ih => exact ih hat
  | up _ ih => exact ih (h.dropLast hat)
  | down _ hnext _ ih => exact ih hnext
  | @through links at_ name target rest s _ _ _ ih =>
    refine ih ?_
    split
    · exact entryAt_root f
    · exact hat
  | @file links at_ name bytes _ _ => exact ⟨at_, name, rfl, hat⟩
  | @missing links at_ name _ _ => exact ⟨at_, name, rfl, hat⟩

theorem IsTree.origin (h : f.IsTree) (p : Path) : f.entryAt (f.origin p) = some .directory := by
  unfold Files.origin
  split
  · exact entryAt_root f
  · exact h.current

theorem IsTree.below_of_locate (h : f.IsTree) {p : Path} {s : Spot} (hs : f.locate p = .ok s) :
    s.Below f :=
  h.below_of_leads (locate_eq_ok.1 hs).2 (h.origin p)

/-- Something new below a directory, in place of nothing or of a file. -/
theorem IsTree.put (h : f.IsTree) {at_ : Place} {name : String} {e : Entry}
    (hat : f.entryAt at_ = some .directory)
    (hold : f.entryAt (at_ ++ [name]) ≠ some .directory) : (f.put (at_ ++ [name]) e).IsTree := by
  have hentry : ∀ other, (f.put (at_ ++ [name]) e).entryAt other
      = if other = at_ ++ [name] then some e else f.entryAt other :=
    fun other => entryAt_put f _ other e (List.append_ne_nil_of_right_ne_nil _ (List.cons_ne_nil _ _))
  -- directories stay, since none stood at the place
  have hkept : ∀ other, f.entryAt other = some .directory →
      (f.put (at_ ++ [name]) e).entryAt other = some .directory := by
    intro other hother
    have hne : other ≠ at_ ++ [name] := by
      rintro rfl
      exact hold hother
    rw [hentry, if_neg hne]
    exact hother
  refine ⟨hkept _ h.current, fun other last e' he' => hkept other ?_⟩
  rw [hentry] at he'
  split at he'
  · rename_i heq
    obtain ⟨rfl, -⟩ := List.append_inj' heq rfl
    exact hat
  · exact h.parent other last e' he'

theorem IsTree.write (h : f.IsTree) {p : Path} {bytes : ByteArray} (hw : f.write p bytes = .ok g) :
    g.IsTree := by
  unfold Files.write at hw
  cases hs : f.locate p with
  | error e => rw [hs] at hw; cases hw
  | ok s =>
    rw [hs] at hw
    have hbelow := h.below_of_locate hs
    have hstands := stands_of_locate hs
    cases s with
    | directory place => cases hw
    | file place old =>
      obtain ⟨at_, name, rfl, hat⟩ := hbelow
      cases hw
      exact h.put hat (by rw [hstands.2]; exact nofun)
    | missing place =>
      obtain ⟨at_, name, rfl, hat⟩ := hbelow
      cases hw
      exact h.put hat (by rw [hstands.2]; exact nofun)

/-- A place for a new entry is below the directory that the path without its last name leads to. -/
theorem exists_of_vacant {p : Path} {place : Place} (h : f.vacant p = .ok place) :
    ∃ names at_ name, (Text.pieces '/' p.text).filter (· ≠ "") = names ++ [name] ∧ IsName name ∧
      Leads f maxLinks (f.origin p) (names ++ ["."]) (.directory at_) ∧
      place = at_ ++ [name] ∧ f.entryAt place = none := by
  have hnone := (vacant_eq_ok h).2
  unfold vacant at h
  cases hspelling : checkSpelling p with
  | error e => rw [hspelling] at h; cases h
  | ok u =>
    rw [hspelling] at h
    dsimp only [bind, Except.bind] at h
    generalize (Text.pieces '/' p.text).filter (· ≠ "") = all at h ⊢
    cases hlast : all.getLast? with
    | none => rw [hlast] at h; cases h
    | some name =>
      obtain ⟨names, rfl⟩ := List.getLast?_eq_some_iff.1 hlast
      rw [hlast, List.dropLast_concat] at h
      dsimp only at h
      cases hwalk : f.walk maxLinks (f.origin p) (names ++ ["."]) with
      | error e => rw [hwalk] at h; cases h
      | ok s =>
        rw [hwalk] at h
        cases s with
        | file | missing => cases h
        | directory at_ =>
          dsimp only at h
          split at h
          · cases h
          · rename_i hdots
            obtain ⟨hdot, hup⟩ := not_or.1 hdots
            split at h
            · cases h
            · rename_i hshort
              split at h
              · cases h
              · cases h
                exact ⟨names, at_, name, rfl, ⟨hdot, hup, hshort⟩, leads_of_walk _ _ _ hwalk, rfl,
                  hnone⟩

theorem IsTree.makeDirectory (h : f.IsTree) {p : Path} (hm : f.makeDirectory p = .ok g) :
    g.IsTree := by
  unfold Files.makeDirectory at hm
  cases hvacant : f.vacant p with
  | error e => rw [hvacant] at hm; cases hm
  | ok place =>
    rw [hvacant] at hm
    cases hm
    obtain ⟨names, at_, name, -, -, hleads, rfl, hnone⟩ := exists_of_vacant hvacant
    have hbelow : f.entryAt at_ = some .directory := h.below_of_leads hleads (h.origin p)
    exact h.put hbelow (by rw [hnone]; exact nofun)

/-- What making one directory keeps is kept when directories are made. -/
theorem makeDirectories_preserve {I : Files → Prop}
    (hmake : ∀ f g p, f.makeDirectory p = .ok g → I f → I g) {f : Files} (hf : I f) (p : Path) :
    I (f.makeDirectories p).1 := by
  have hensure : ∀ f g p, f.ensureDirectory p = .ok g → I f → I g := by
    intro f g p hg hf
    unfold ensureDirectory at hg
    cases hone : f.makeDirectory p with
    | ok f' =>
      rw [hone] at hg
      cases hg
      exact hmake f _ p hone hf
    | error e =>
      rw [hone] at hg
      dsimp only at hg
      split at hg
      · cases hg
        exact hf
      · cases hg
  have hfrom : ∀ fuel p, I (makeDirectoriesFrom fuel f p).1 := by
    intro fuel
    induction fuel with
    | zero => exact fun _ => hf
    | succ fuel ih =>
      intro p
      unfold makeDirectoriesFrom
      split
      · exact hf
      · split
        · rename_i g hmade
          exact hensure f g p hmade hf
        · split
          · exact hf
          · rename_i parent hparent
            have habove := ih parent
            split
            · rename_i g e heq
              rw [heq] at habove
              exact habove
            · rename_i g heq
              rw [heq] at habove
              split
              · rename_i h hmade
                exact hensure g h p hmade habove
              · exact habove
        · exact hf
  exact hfrom _ p

theorem IsTree.makeDirectories (h : f.IsTree) (p : Path) : (f.makeDirectories p).1.IsTree :=
  makeDirectories_preserve (fun _ _ _ hm hf => hf.makeDirectory hm) h p

end Trees

/-! ## Making directories -/

/-- No link steps up. -/
def LinksDown (f : Files) : Prop :=
  ∀ at_ target, f.entryAt at_ = some (.link target) → ".." ∉ steps target

/-- Directories on its way that are made do not change what is read at the path: it leads somewhere
already, or nothing on its way in a tree steps up. -/
def Settled (f : Files) (p : Path) : Prop :=
  (∃ s, f.locate p = .ok s) ∨ (f.IsTree ∧ f.LinksDown ∧ ".." ∉ steps p)

section Making

variable {f g : Files} {p : Path}

theorem LinksDown.of_grows (h : f.LinksDown) (hfg : Grows f g) : g.LinksDown :=
  fun at_ target hlink => h at_ target (hfg.link_back hlink)

theorem not_up_mem_rest {name : String} {rest : List String} (h : ".." ∉ name :: rest) :
    ".." ∉ rest := fun hrest => h (List.mem_cons_of_mem name hrest)

theorem LinksDown.not_mem_through (h : f.LinksDown) {at_ : Place} {target : Path}
    (hlink : f.entryAt at_ = some (.link target)) {rest : List String} (hrest : ".." ∉ rest) :
    ".." ∉ steps target ++ rest := by
  intro hmem
  rcases List.mem_append.1 hmem with htarget | hlast
  · exact h at_ target hlink htarget
  · exact hrest hlast

/-- Below a place that is no directory in a tree there is nothing, and no way down leads to a file
that was there. -/
theorem IsTree.no_file_below (htree : f.IsTree) (hfg : Keeps f g) {links : Nat} {at_ : Place}
    {names : List String} {s : Spot} (hs : Leads g links at_ names s)
    (hat : f.entryAt at_ ≠ some .directory) (hup : ".." ∉ names) {place : Place}
    {bytes : ByteArray} (hfile : s = .file place bytes) : f.entryAt place = none := by
  have hnone : ∀ {at_ : Place}, f.entryAt at_ ≠ some .directory → ∀ name,
      f.entryAt (at_ ++ [name]) = none := by
    intro at_ hat name
    cases hentry : f.entryAt (at_ ++ [name]) with
    | none => rfl
    | some e => exact absurd (htree.parent at_ name e hentry) hat
  induction hs with
  | here => cases hfile
  | dot _ ih => exact ih hat (not_up_mem_rest hup) hfile
  | up _ _ => exact absurd List.mem_cons_self hup
  | @down links at_ name rest s _ _ _ ih =>
    refine ih ?_ (not_up_mem_rest hup) hfile
    rw [hnone hat name]
    exact nofun
  | @through links at_ name target rest s _ hlink _ _ =>
    -- a link would have been there before
    have hback := hfg.grows.link_back hlink
    rw [hnone hat name] at hback
    cases hback
  | @file links at_ name old _ _ =>
    cases hfile
    exact hnone hat name
  | missing => cases hfile

/-- **A way down to a file that was there before went the same way before.** -/
theorem leads_of_keeps (htree : f.IsTree) (hlinks : f.LinksDown) (hfg : Keeps f g) {links : Nat}
    {at_ : Place} {names : List String} {s : Spot} (hs : Leads g links at_ names s)
    (hup : ".." ∉ names) {place : Place} {bytes : ByteArray} (hfile : s = .file place bytes)
    (hplace : f.entryAt place = some (.file bytes)) : Leads f links at_ names s := by
  induction hs with
  | here => exact .here
  | dot _ ih => exact .dot (ih (not_up_mem_rest hup) hfile)
  | up _ _ => exact absurd List.mem_cons_self hup
  | @down links at_ name rest s hname hat hrest ih =>
    by_cases hbefore : f.entryAt (at_ ++ [name]) = some .directory
    · exact .down hname hbefore (ih (not_up_mem_rest hup) hfile)
    · have hnone := htree.no_file_below hfg hrest hbefore (not_up_mem_rest hup) hfile
      rw [hplace] at hnone
      cases hnone
  | @through links at_ name target rest s hname hlink hrest ih =>
    have hback := hfg.grows.link_back hlink
    exact .through hname hback
      (ih (hlinks.not_mem_through hback (not_up_mem_rest hup)) hfile)
  | file hname hat =>
    cases hfile
    exact .file hname hplace
  | missing => cases hfile

/-- **New directories do not change what file a settled path leads to.** -/
theorem Settled.sameFile (h : f.Settled p) (hfg : Keeps f g) : SameFile f g p := by
  refine fun at_ bytes => ⟨fun hp => ?_, fun hp => ?_⟩
  · exact locate_file_of_entry hfg.grows hp (hfg.entry at_ _ (stands_of_locate hp).2)
  · have hstands := stands_of_locate hp
    -- a file that is there now was there before
    have hbefore : f.entryAt at_ = some (.file bytes) := by
      cases hat : f.entryAt at_ with
      | none =>
        rcases hfg.missing at_ hat with hnone | hdirectory
        · rw [hstands.2] at hnone
          cases hnone
        · rw [hstands.2] at hdirectory
          cases hdirectory
      | some e =>
        have hkept := hfg.entry at_ e hat
        rw [hstands.2] at hkept
        exact hkept.symm
    rcases h with ⟨s, hs⟩ | ⟨htree, hlinks, hup⟩
    · have hsame := locate_of_grows hfg.grows hs
      rw [hp] at hsame
      have hspot : s = .file at_ bytes := by
        cases s with
        | directory place => cases hsame
        | file place old =>
          have hold := (stands_of_locate hs).2
          have hnow : g.spotAt place = .file place old := by
            unfold spotAt
            rw [hfg.entry place _ hold]
          rw [Spot.within, hnow] at hsame
          exact (Except.ok.inj hsame).symm
        | missing place =>
          rw [Spot.within] at hsame
          unfold spotAt at hsame
          rcases hfg.missing place (stands_of_locate hs).2 with hnone | hdirectory
          · rw [hnone] at hsame
            cases hsame
          · rw [hdirectory] at hsame
            cases hsame
      rw [hs, hspot]
    · obtain ⟨hspelling, hleads⟩ := locate_eq_ok.1 hp
      have horigin : g.origin p = f.origin p := by
        unfold origin
        rw [hfg.current]
      rw [horigin] at hleads
      exact locate_eq_ok.2 ⟨hspelling, leads_of_keeps htree hlinks hfg hleads hup rfl hbefore⟩

theorem Settled.write (h : f.Settled p) {q : Path} {bytes : ByteArray}
    (hw : f.write q bytes = .ok g) : g.Settled p := by
  obtain ⟨-, hfg, -, -⟩ := onlyFiles_of_write hw
  rcases h with ⟨s, hs⟩ | ⟨htree, hlinks, hup⟩
  · exact .inl ⟨_, locate_of_grows hfg.grows hs⟩
  · exact .inr ⟨htree.write hw, hlinks.of_grows hfg.grows, hup⟩

theorem Settled.makeDirectories (h : f.Settled p) (q : Path) :
    (f.makeDirectories q).1.Settled p := by
  have hkeeps := f.makeDirectories_keeps q
  rcases h with ⟨s, hs⟩ | ⟨htree, hlinks, hup⟩
  · exact .inl ⟨_, locate_of_grows hkeeps.grows hs⟩
  · exact .inr ⟨htree.makeDirectories q, hlinks.of_grows hkeeps.grows, hup⟩

end Making

end EditorPlugins.Files

namespace EditorPlugins.Store

open Files

variable {f g : Files} {p : Path}

/-! ## Dictionaries -/

/-- The dictionary that is loaded depends on the file that the path leads to, -/
theorem loadStrict_congr (h : SameFile f g p) : loadStrict g p = loadStrict f p := by
  unfold loadStrict
  rcases h.readText_cases with ⟨text, hf, hg⟩ | ⟨e, e', hf, hg⟩
  · rw [hf, hg]
  · rw [hf, hg]

/-- strictly or leniently. -/
theorem loadLenient_of_sameFile (h : SameFile f g p) : loadLenient g p = loadLenient f p := by
  unfold loadLenient
  rcases h.readText_cases with ⟨text, hf, hg⟩ | ⟨e, e', hf, hg⟩
  · rw [hf, hg]
  · rw [hf, hg]

/-- The entries of an object of texts are those of its dictionary. -/
theorem strictEntries?_ofDict (d : Dict String) : strictEntries? (Json.ofDict d) = some d := by
  have hentries : (d.entries.map fun e => (e.1, Json.text e.2)).mapM asTextEntry
      = some d.entries := by
    generalize d.entries = entries
    induction entries with
    | nil => rfl
    | cons e rest ih => simp only [List.map_cons, List.mapM_cons, ih]; rfl
  show ((d.entries.map fun e => (e.1, Json.text e.2)).mapM asTextEntry).map Dict.ofList = some d
  rw [hentries]
  exact congrArg some (Dict.ofList_entries d)

/-- A file that holds a rendered dictionary is loaded as this dictionary, strictly, too. -/
theorem loadStrict_of_locate {at_ : Place} {d : Dict String}
    (h : f.locate p = .ok (.file at_ (Text.encode (render d)))) : loadStrict f p = d := by
  have htext : f.readText p = .ok (render d) := by
    unfold Files.readText
    simp only [Files.read_of_locate h, bind, Except.bind, Text.decode?_encode]
  have hparse : Json.parse (render d) = .ok (Json.ofDict d) := Json.parse_pretty_ofDict d
  unfold loadStrict
  rw [htext]
  dsimp only
  rw [hparse]
  dsimp only
  rw [strictEntries?_ofDict]
  rfl

/-- Saving makes directories, and then writes one file or none. -/
theorem saveBelow_cases (f : Files) (dir q : Path) (d : Dict String) :
    (saveBelow f (some dir) q d).1 = (f.makeDirectories dir).1 ∨
    (f.makeDirectories dir).1.write q (Text.encode (render d))
      = .ok (saveBelow f (some dir) q d).1 := by
  unfold saveBelow
  dsimp only
  obtain ⟨made, e⟩ := f.makeDirectories dir
  cases e with
  | some e => exact .inl rfl
  | none =>
    dsimp only
    cases hwritten : made.writeText q (render d) with
    | error e => exact .inl rfl
    | ok g => exact .inr hwritten

/-- Saving takes nothing away, whether it succeeds or not. -/
theorem grows_saveBelow (f : Files) (dir q : Path) (d : Dict String) :
    f.Grows (saveBelow f (some dir) q d).1 := by
  have hmade := (f.makeDirectories_keeps dir).grows
  rcases saveBelow_cases f dir q d with hsame | hwritten
  · rw [hsame]
    exact hmade
  · obtain ⟨at_, hgrows, -⟩ := write_eq_ok hwritten
    exact hmade.trans hgrows

/-- **A settled path leads to the same file when a dictionary is saved elsewhere.** -/
theorem sameFile_saveBelow (h : f.Settled p) (dir q : Path) (d : Dict String) :
    SameFile f (saveBelow f (some dir) q d).1 p ∨
    (saveBelow f (some dir) q d).1.SameTarget p q ∧
      ∃ at_ bytes, (saveBelow f (some dir) q d).1.locate q = .ok (.file at_ bytes) := by
  have hmade := h.sameFile (f.makeDirectories_keeps dir)
  rcases saveBelow_cases f dir q d with hsame | hwritten
  · rw [hsame]
    exact .inl hmade
  · by_cases hapart : (saveBelow f (some dir) q d).1.SameTarget p q
    · obtain ⟨at_, -, hlocate, -⟩ := write_eq_ok hwritten
      exact .inr ⟨hapart, at_, _, hlocate⟩
    · exact .inl (hmade.trans (sameFile_write hwritten hapart))

theorem settled_saveBelow (h : f.Settled p) (dir : Option Path) (q : Path) (d : Dict String) :
    (saveBelow f dir q d).1.Settled p := by
  cases dir with
  | some dir =>
    have hmade := h.makeDirectories dir
    rcases saveBelow_cases f dir q d with hsame | hwritten
    · rw [hsame]
      exact hmade
    · exact hmade.write hwritten
  | none =>
    unfold saveBelow
    dsimp only
    cases hwritten : f.writeText q (render d) with
    | error e => exact h
    | ok g => exact h.write hwritten

/-- A dictionary that was saved is loaded strictly, too. -/
theorem loadStrict_saveBelow {dir : Option Path} {d : Dict String}
    (h : (saveBelow f dir p d).2 = none) : loadStrict (saveBelow f dir p d).1 p = d := by
  obtain ⟨at_, -, hlocate, -⟩ := saveBelow_eq_ok (Prod.ext rfl h)
  exact loadStrict_of_locate hlocate

end EditorPlugins.Store
