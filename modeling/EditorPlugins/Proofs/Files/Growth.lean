/-
  What paths lead to when files are written and directories are made.

  Writing a file and making a directory take nothing away: directories and links stay what they
  are, a file stays a file, and where nothing was comes no link.  `Grows` says this of two file
  systems.  A path that leads somewhere then leads to the same place afterwards: the way to it goes
  through directories and links only, and these have stayed.

  Main statements: `locate_of_grows`; `write_eq_ok`, what a write does; `makeDirectories_keeps`,
  that making directories changes no entry that was there.
-/
import EditorPlugins.Files.Operations

namespace EditorPlugins.Files

/-! ## Where a path leads -/

/-- What a place is for a path that ends there. -/
def spotAt (f : Files) (at_ : Place) : Spot :=
  match f.entryAt at_ with
  | some .directory => .directory at_
  | some (.file bytes) => .file at_ bytes
  | some (.link _) | none => .missing at_

/-- The same end of a way in another file system. -/
def Spot.within (g : Files) : Spot → Spot
  | .directory at_ => .directory at_
  | .file at_ _ | .missing at_ => g.spotAt at_

/-- A file or a gap that a way ends at is one of the file system. -/
def Spot.Stands (f : Files) : Spot → Prop
  | .directory _ => True
  | .file at_ bytes => at_ ≠ [] ∧ f.entryAt at_ = some (.file bytes)
  | .missing at_ => at_ ≠ [] ∧ f.entryAt at_ = none

/-- Nothing was taken away, and no link was made. -/
structure Grows (f g : Files) : Prop where
  current : g.current = f.current
  directory : ∀ at_, f.entryAt at_ = some .directory → g.entryAt at_ = some .directory
  link : ∀ at_ target, f.entryAt at_ = some (.link target) → g.entryAt at_ = some (.link target)
  file : ∀ at_ bytes, f.entryAt at_ = some (.file bytes) →
    ∃ bytes', g.entryAt at_ = some (.file bytes')
  missing : ∀ at_ target, f.entryAt at_ = none → g.entryAt at_ ≠ some (.link target)

/-- Every entry is kept, and what is new are directories. -/
structure Keeps (f g : Files) : Prop where
  current : g.current = f.current
  entry : ∀ at_ e, f.entryAt at_ = some e → g.entryAt at_ = some e
  missing : ∀ at_, f.entryAt at_ = none → g.entryAt at_ = none ∨ g.entryAt at_ = some .directory

section Growing

variable {f g h : Files}

theorem Grows.refl (f : Files) : Grows f f where
  current := rfl
  directory _ hat := hat
  link _ _ hat := hat
  file _ bytes hat := ⟨bytes, hat⟩
  missing _ _ hat := by rw [hat]; exact nofun

theorem Grows.trans (hfg : Grows f g) (hgh : Grows g h) : Grows f h where
  current := hgh.current.trans hfg.current
  directory at_ hat := hgh.directory at_ (hfg.directory at_ hat)
  link at_ target hat := hgh.link at_ target (hfg.link at_ target hat)
  file at_ bytes hat := by
    obtain ⟨bytes', hat'⟩ := hfg.file at_ bytes hat
    exact hgh.file at_ bytes' hat'
  missing at_ target hat := by
    cases hnext : g.entryAt at_ with
    | none => exact hgh.missing at_ target hnext
    | some e =>
      cases e with
      | file bytes =>
        obtain ⟨bytes', hlast⟩ := hgh.file at_ bytes hnext
        rw [hlast]
        exact nofun
      | directory =>
        rw [hgh.directory at_ hnext]
        exact nofun
      | link target' => exact absurd hnext (hfg.missing at_ target' hat)

/-- What is a link in the larger of two file systems is one in the other. -/
theorem Grows.link_back (hfg : Grows f g) {at_ : Place} {target : Path}
    (h : g.entryAt at_ = some (.link target)) : f.entryAt at_ = some (.link target) := by
  cases hat : f.entryAt at_ with
  | none => exact absurd h (hfg.missing at_ target hat)
  | some e =>
    cases e with
    | directory =>
      have hdirectory := hfg.directory at_ hat
      rw [h] at hdirectory
      cases hdirectory
    | file bytes =>
      obtain ⟨bytes', hfile⟩ := hfg.file at_ bytes hat
      rw [h] at hfile
      cases hfile
    | link target' =>
      have hlink := hfg.link at_ target' hat
      rw [h] at hlink
      exact congrArg some (Option.some.inj hlink).symm

theorem Grows.link_iff (hfg : Grows f g) {at_ : Place} {target : Path} :
    g.entryAt at_ = some (.link target) ↔ f.entryAt at_ = some (.link target) :=
  ⟨hfg.link_back, hfg.link at_ target⟩

theorem Keeps.refl (f : Files) : Keeps f f := ⟨rfl, fun _ _ hat => hat, fun _ hat => .inl hat⟩

theorem Keeps.trans (hfg : Keeps f g) (hgh : Keeps g h) : Keeps f h where
  current := hgh.current.trans hfg.current
  entry at_ e hat := hgh.entry at_ e (hfg.entry at_ e hat)
  missing at_ hat := by
    rcases hfg.missing at_ hat with hnone | hdirectory
    · exact hgh.missing at_ hnone
    · exact .inr (hgh.entry at_ _ hdirectory)

theorem Keeps.grows (hfg : Keeps f g) : Grows f g where
  current := hfg.current
  directory at_ hat := hfg.entry at_ _ hat
  link at_ _ hat := hfg.entry at_ _ hat
  file at_ bytes hat := ⟨bytes, hfg.entry at_ _ hat⟩
  missing at_ target hat := by
    rcases hfg.missing at_ hat with hnone | hdirectory
    · rw [hnone]; exact nofun
    · rw [hdirectory]; exact nofun

/-- A file in place of a file or of nothing. -/
theorem grows_put_file {at_ : Place} (hroot : at_ ≠ [])
    (hat : f.entryAt at_ = none ∨ ∃ old, f.entryAt at_ = some (.file old)) (bytes : ByteArray) :
    Grows f (f.put at_ (.file bytes)) := by
  have hentry : ∀ other, (f.put at_ (.file bytes)).entryAt other
      = if other = at_ then some (.file bytes) else f.entryAt other :=
    fun other => entryAt_put f at_ other _ hroot
  -- at its own place there was neither a directory nor a link
  have hother : ∀ {other e}, f.entryAt other = some e → (∀ old, e ≠ .file old) → other ≠ at_ := by
    rintro other e hotherAt hfile rfl
    rcases hat with hnone | ⟨old, hold⟩
    · rw [hnone] at hotherAt
      cases hotherAt
    · rw [hold] at hotherAt
      exact hfile old (Option.some.inj hotherAt).symm
  refine ⟨rfl, fun other hd => ?_, fun other target hl => ?_, fun other old hold => ?_,
    fun other target hnone => ?_⟩
  · rw [hentry, if_neg (hother hd nofun)]
    exact hd
  · rw [hentry, if_neg (hother hl nofun)]
    exact hl
  · rw [hentry]
    split
    · exact ⟨bytes, rfl⟩
    · exact ⟨old, hold⟩
  · rw [hentry]
    split
    · exact nofun
    · rw [hnone]
      exact nofun

/-- A directory where nothing was. -/
theorem keeps_put_directory {at_ : Place} (hroot : at_ ≠ []) (hat : f.entryAt at_ = none) :
    Keeps f (f.put at_ .directory) := by
  have hentry : ∀ other, (f.put at_ .directory).entryAt other
      = if other = at_ then some .directory else f.entryAt other :=
    fun other => entryAt_put f at_ other _ hroot
  refine ⟨rfl, fun other e he => ?_, fun other hnone => ?_⟩
  · have hne : other ≠ at_ := by
      rintro rfl
      rw [hat] at he
      cases he
    rw [hentry, if_neg hne]
    exact he
  · rw [hentry]
    split
    · exact .inr rfl
    · exact .inl hnone

end Growing

/-! ## Ways -/

/-- A name that is looked up in a directory. -/
structure IsName (name : String) : Prop where
  notDot : name ≠ "."
  notUp : name ≠ ".."
  short : ¬ name.utf8ByteSize > maxName

/-- The names lead from a directory to the end of a way, through at most so many links. -/
inductive Leads (f : Files) : Nat → Place → List String → Spot → Prop where
  | here {links : Nat} {at_ : Place} : Leads f links at_ [] (.directory at_)
  | dot {links : Nat} {at_ : Place} {rest : List String} {s : Spot} (h : Leads f links at_ rest s) :
      Leads f links at_ ("." :: rest) s
  | up {links : Nat} {at_ : Place} {rest : List String} {s : Spot}
      (h : Leads f links at_.dropLast rest s) : Leads f links at_ (".." :: rest) s
  | down {links : Nat} {at_ : Place} {name : String} {rest : List String} {s : Spot}
      (hname : IsName name) (hat : f.entryAt (at_ ++ [name]) = some .directory)
      (h : Leads f links (at_ ++ [name]) rest s) : Leads f links at_ (name :: rest) s
  | through {links : Nat} {at_ : Place} {name : String} {target : Path} {rest : List String}
      {s : Spot} (hname : IsName name) (hat : f.entryAt (at_ ++ [name]) = some (.link target))
      (h : Leads f links (if target.isAbsolute then [] else at_) (steps target ++ rest) s) :
      Leads f (links + 1) at_ (name :: rest) s
  | file {links : Nat} {at_ : Place} {name : String} {bytes : ByteArray} (hname : IsName name)
      (hat : f.entryAt (at_ ++ [name]) = some (.file bytes)) :
      Leads f links at_ [name] (.file (at_ ++ [name]) bytes)
  | missing {links : Nat} {at_ : Place} {name : String} (hname : IsName name)
      (hat : f.entryAt (at_ ++ [name]) = none) :
      Leads f links at_ [name] (.missing (at_ ++ [name]))

section Ways

variable {f g : Files}

/-- Going on from a directory by the names that lead on. -/
theorem leads_of_descend {links : Nat}
    {follow : Path → Place → List String → Except FileFault Spot}
    (hfollow : ∀ target at_ name rest s, IsName name →
      f.entryAt (at_ ++ [name]) = some (.link target) → follow target at_ rest = .ok s →
      Leads f links at_ (name :: rest) s)
    (names : List String) (at_ : Place) {s : Spot} (hs : descend f follow at_ names = .ok s) :
    Leads f links at_ names s := by
  induction names generalizing at_ with
  | nil =>
    cases hs
    exact .here
  | cons name rest ih =>
    unfold descend at hs
    by_cases hdot : name = "."
    · rw [if_pos hdot] at hs
      exact hdot ▸ .dot (ih at_ hs)
    rw [if_neg hdot] at hs
    by_cases hup : name = ".."
    · rw [if_pos hup] at hs
      exact hup ▸ .up (ih _ hs)
    rw [if_neg hup] at hs
    by_cases hlong : name.utf8ByteSize > maxName
    · rw [if_pos hlong] at hs
      cases hs
    rw [if_neg hlong] at hs
    have hname : IsName name := ⟨hdot, hup, hlong⟩
    -- what stands at the next place decides
    cases hat : f.entryAt (at_ ++ [name]) with
    | none =>
      simp only [hat] at hs
      split at hs
      · rename_i hlast
        cases hs
        rw [List.isEmpty_iff.1 hlast]
        exact .missing hname hat
      · cases hs
    | some e =>
      simp only [hat] at hs
      cases e with
      | directory => exact .down hname hat (ih _ hs)
      | link target => exact hfollow _ _ _ _ _ hname hat hs
      | file bytes =>
        dsimp only at hs
        split at hs
        · rename_i hlast
          cases hs
          rw [List.isEmpty_iff.1 hlast]
          exact .file hname hat
        · cases hs

theorem leads_of_walk (links : Nat) (at_ : Place) (names : List String) {s : Spot}
    (hs : f.walk links at_ names = .ok s) : Leads f links at_ names s := by
  induction links generalizing at_ names s with
  | zero =>
    -- no link is followed any more
    refine leads_of_descend (fun target at_ name rest s _ _ hnever => ?_) names at_ hs
    cases hnever
  | succ links ih =>
    refine leads_of_descend (fun target at_ name rest s hname hat hrest => ?_) names at_ hs
    exact .through hname hat (ih _ _ hrest)

/-- What the names lead through, one name at a time. -/
theorem walk_of_leads {links : Nat} {at_ : Place} {names : List String} {s : Spot}
    (h : Leads f links at_ names s) : f.walk links at_ names = .ok s := by
  induction h with
  | @here links at_ => cases links <;> rfl
  | @dot links at_ rest s _ ih => cases links <;> simpa [walk, descend] using ih
  | @up links at_ rest s _ ih => cases links <;> simpa [walk, descend] using ih
  | @down links at_ name rest s hname hat _ ih =>
    cases links <;>
      simpa [walk, descend, hname.notDot, hname.notUp, hname.short, hat] using ih
  | through hname hat _ ih =>
    simpa [walk, descend, hname.notDot, hname.notUp, hname.short, hat] using ih
  | @file links at_ name bytes hname hat =>
    cases links <;> simp [walk, descend, hname.notDot, hname.notUp, hname.short, hat]
  | @missing links at_ name hname hat =>
    cases links <;> simp [walk, descend, hname.notDot, hname.notUp, hname.short, hat]

/-- What a way ends at is there. -/
theorem Leads.stands {links : Nat} {at_ : Place} {names : List String} {s : Spot}
    (h : Leads f links at_ names s) : s.Stands f := by
  induction h with
  | here => trivial
  | dot _ ih | up _ ih | down _ _ _ ih | through _ _ _ ih => exact ih
  | file _ hat => exact ⟨List.append_ne_nil_of_right_ne_nil _ (List.cons_ne_nil _ _), hat⟩
  | missing _ hat => exact ⟨List.append_ne_nil_of_right_ne_nil _ (List.cons_ne_nil _ _), hat⟩

/-- **Where directories stay and links are the same, a way leads to the same place**, whatever
stands there now. -/
theorem Leads.carried
    (hdirectory : ∀ at_, f.entryAt at_ = some .directory → g.entryAt at_ = some .directory)
    (hlink : ∀ at_ target,
      f.entryAt at_ = some (.link target) ↔ g.entryAt at_ = some (.link target))
    {links : Nat} {at_ : Place} {names : List String} {s : Spot}
    (h : Leads f links at_ names s) : Leads g links at_ names (s.within g) := by
  have hlast : ∀ {links at_ name}, IsName name →
      (∀ target, f.entryAt (at_ ++ [name]) ≠ some (.link target)) →
      Leads g links at_ [name] (g.spotAt (at_ ++ [name])) := by
    intro links at_ name hname hnot
    unfold spotAt
    cases hnow : g.entryAt (at_ ++ [name]) with
    | none => exact .missing hname hnow
    | some e =>
      cases e with
      | file bytes => exact .file hname hnow
      | directory => exact .down hname hnow .here
      | link target => exact absurd ((hlink _ target).2 hnow) (hnot target)
  induction h with
  | here => exact .here
  | dot _ ih => exact .dot ih
  | up _ ih => exact .up ih
  | down hname hat _ ih => exact .down hname (hdirectory _ hat) ih
  | through hname hat _ ih => exact .through hname ((hlink _ _).1 hat) ih
  | file hname hat | missing hname hat => exact hlast hname (by rw [hat]; exact fun _ => nofun)

/-- **A way stays a way to the same place.** -/
theorem Leads.of_grows (hfg : Grows f g) {links : Nat} {at_ : Place} {names : List String}
    {s : Spot} (h : Leads f links at_ names s) : Leads g links at_ names (s.within g) :=
  h.carried hfg.directory fun _ _ => hfg.link_iff.symm

/-! ## Paths -/

theorem locate_eq_ok {p : Path} {s : Spot} : f.locate p = .ok s ↔
    checkSpelling p = .ok () ∧ Leads f maxLinks (f.origin p) (steps p) s := by
  unfold locate
  cases hspelling : checkSpelling p with
  | error e => exact iff_of_false nofun (fun h => nomatch h.1)
  | ok u => exact ⟨fun h => ⟨rfl, leads_of_walk _ _ _ h⟩, fun h => walk_of_leads h.2⟩

theorem stands_of_locate {p : Path} {s : Spot} (h : f.locate p = .ok s) : s.Stands f :=
  (locate_eq_ok.1 h).2.stands

/-- **A path leads to the same place when the file system has grown.** -/
theorem locate_of_grows (hfg : Grows f g) {p : Path} {s : Spot} (h : f.locate p = .ok s) :
    g.locate p = .ok (s.within g) := by
  obtain ⟨hspelling, hleads⟩ := locate_eq_ok.1 h
  have horigin : g.origin p = f.origin p := by
    unfold origin
    rw [hfg.current]
  exact locate_eq_ok.2 ⟨hspelling, horigin ▸ hleads.of_grows hfg⟩

/-- A path to a file still leads to a file, at the same place; -/
theorem locate_file_of_grows (hfg : Grows f g) {p : Path} {at_ : Place} {bytes : ByteArray}
    (h : f.locate p = .ok (.file at_ bytes)) : ∃ bytes', g.locate p = .ok (.file at_ bytes') := by
  obtain ⟨bytes', hbytes⟩ := hfg.file at_ bytes (stands_of_locate h).2
  refine ⟨bytes', (locate_of_grows hfg h).trans ?_⟩
  show Except.ok (g.spotAt at_) = _
  unfold spotAt
  rw [hbytes]

/-- to a file with the same bytes, if the place has kept them. -/
theorem locate_file_of_entry (hfg : Grows f g) {p : Path} {at_ : Place} {bytes : ByteArray}
    (h : f.locate p = .ok (.file at_ bytes)) (hat : g.entryAt at_ = some (.file bytes)) :
    g.locate p = .ok (.file at_ bytes) := by
  refine (locate_of_grows hfg h).trans ?_
  show Except.ok (g.spotAt at_) = _
  unfold spotAt
  rw [hat]

/-! ## Writing -/

/-- **A write puts the bytes where the path leads.**  Nothing else changes, and the path leads to
the file from then on. -/
theorem write_eq_ok {p : Path} {bytes : ByteArray} (h : f.write p bytes = .ok g) :
    ∃ at_, Grows f g ∧ g.locate p = .ok (.file at_ bytes) ∧
      ∀ other, other ≠ at_ → g.entryAt other = f.entryAt other := by
  have hput : ∀ at_ s, f.locate p = .ok s → at_ ≠ [] →
      (f.entryAt at_ = none ∨ ∃ old, f.entryAt at_ = some (.file old)) →
      s.within (f.put at_ (.file bytes)) = (f.put at_ (.file bytes)).spotAt at_ →
      g = f.put at_ (.file bytes) → ∃ at_, Grows f g ∧ g.locate p = .ok (.file at_ bytes) ∧
        ∀ other, other ≠ at_ → g.entryAt other = f.entryAt other := by
    rintro at_ s hs hroot hat hwithin rfl
    have hgrows := grows_put_file hroot hat bytes
    have hentry : ∀ other, (f.put at_ (.file bytes)).entryAt other
        = if other = at_ then some (.file bytes) else f.entryAt other :=
      fun other => entryAt_put f at_ other _ hroot
    refine ⟨at_, hgrows, ?_, fun other hne => by rw [hentry, if_neg hne]⟩
    rw [locate_of_grows hgrows hs, hwithin]
    unfold spotAt
    rw [hentry, if_pos rfl]
  unfold write at h
  cases hs : f.locate p with
  | error e => rw [hs] at h; cases h
  | ok s =>
    rw [hs] at h
    have hstands := stands_of_locate hs
    cases s with
    | directory at_ => cases h
    | file at_ old =>
      cases h
      exact hput at_ _ hs hstands.1 (.inr ⟨old, hstands.2⟩) rfl rfl
    | missing at_ =>
      cases h
      exact hput at_ _ hs hstands.1 (.inl hstands.2) rfl rfl

theorem read_of_locate {p : Path} {at_ : Place} {bytes : ByteArray}
    (h : f.locate p = .ok (.file at_ bytes)) : f.read p = .ok bytes := by
  unfold read
  rw [h]
  rfl

theorem exists_locate_of_read {p : Path} {bytes : ByteArray} (h : f.read p = .ok bytes) :
    ∃ at_, f.locate p = .ok (.file at_ bytes) := by
  unfold read at h
  cases hs : f.locate p with
  | error e => rw [hs] at h; cases h
  | ok s =>
    rw [hs] at h
    cases s with
    | directory at_ | missing at_ => cases h
    | file at_ old =>
      cases h
      exact ⟨at_, rfl⟩

/-- What was written is read again. -/
theorem read_of_write {p : Path} {bytes : ByteArray} (h : f.write p bytes = .ok g) :
    g.read p = .ok bytes := by
  obtain ⟨at_, -, hlocate, -⟩ := write_eq_ok h
  exact read_of_locate hlocate

/-- Putting bytes behind those of a file is writing them all. -/
theorem append_of_read {p : Path} {old : ByteArray} (h : f.read p = .ok old) (bytes : ByteArray) :
    f.append p bytes = f.write p (old ++ bytes) := by
  obtain ⟨at_, hlocate⟩ := exists_locate_of_read h
  unfold append write
  rw [hlocate]
  rfl

theorem vacant_eq_ok {p : Path} {at_ : Place} (h : f.vacant p = .ok at_) :
    at_ ≠ [] ∧ f.entryAt at_ = none := by
  unfold vacant at h
  cases hspelling : checkSpelling p with
  | error e => rw [hspelling] at h; cases h
  | ok u =>
    rw [hspelling] at h
    dsimp only [bind, Except.bind] at h
    split at h
    · cases h
    · rename_i name hname
      split at h
      · cases h
      · rename_i s hs
        split at h
        · rename_i dir
          split at h
          · cases h
          · split at h
            · cases h
            · split at h
              · cases h
              · rename_i hnone
                cases h
                exact ⟨List.append_ne_nil_of_right_ne_nil _ (List.cons_ne_nil _ _), hnone⟩
        · cases h

theorem makeDirectory_keeps {p : Path} (h : f.makeDirectory p = .ok g) : Keeps f g := by
  unfold makeDirectory at h
  cases hvacant : f.vacant p with
  | error e => rw [hvacant] at h; cases h
  | ok at_ =>
    rw [hvacant] at h
    cases h
    obtain ⟨hroot, hnone⟩ := vacant_eq_ok hvacant
    exact keeps_put_directory hroot hnone

theorem ensureDirectory_keeps {p : Path} (h : f.ensureDirectory p = .ok g) : Keeps f g := by
  unfold ensureDirectory at h
  cases hmake : f.makeDirectory p with
  | ok f' =>
    rw [hmake] at h
    cases h
    exact makeDirectory_keeps hmake
  | error e =>
    rw [hmake] at h
    dsimp only at h
    split at h
    · cases h
      exact .refl f
    · cases h

/-- **Making directories changes no entry that was there**, also when it fails on the way. -/
theorem makeDirectoriesFrom_keeps (fuel : Nat) (f : Files) (p : Path) :
    Keeps f (makeDirectoriesFrom fuel f p).1 := by
  induction fuel generalizing p with
  | zero => exact .refl f
  | succ fuel ih =>
    unfold makeDirectoriesFrom
    split
    · exact .refl f
    · split
      · rename_i g hmade
        exact ensureDirectory_keeps hmade
      · split
        · exact .refl f
        · rename_i parent hparent
          have habove := ih parent
          split
          · rename_i g e heq
            rw [heq] at habove
            exact habove
          · rename_i g heq
            rw [heq] at habove
            split
            · rename_i h hmade
              exact habove.trans (ensureDirectory_keeps hmade)
            · exact habove
      · exact .refl f

theorem makeDirectories_keeps (f : Files) (p : Path) : Keeps f (f.makeDirectories p).1 :=
  makeDirectoriesFrom_keeps _ f p

end Ways

end EditorPlugins.Files
