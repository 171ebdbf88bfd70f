import Beale.Shell.Leases

/-!
# Who holds a lease

Files are removed by their paths, so a command may remove another file than the one it has judged, or has
created.

- `LeasesSound`: the limits are kept, the holders have their files, and every file can be reclaimed some time.
- `leases_sound`: this holds after every run that meets the condition.
-/

namespace Beale.Shell

open Beale.Library
open LeaseDirectory

def LeasePoint.isWriting : LeasePoint → Bool
  | .writing _ _ _ => true
  | _ => false

def LeasePoint.isHolding : LeasePoint → Bool
  | .holding _ _ => true
  | _ => false

/-- The condition on a step. -/
def LeasesKept (digest : JsString → JsString) (directory : LeaseDirectory) : LeaseEvent → Bool
  | .acquire _ _ _ _ => true
  | .advance id answer => (directory.commands.get? id).all fun command =>
      match command.point with
      | .writing _ _ _ => !answer.failed
      | .unlinking slot file => (directory.files.get? (command.path digest slot)).all fun there => there.id = file
      | _ => true
  | .release id _ => (directory.commands.get? id).all fun command =>
      match command.point with
      | .holding slot file => (directory.files.get? (command.path digest slot)).all fun there => there.id = file
      | _ => true
  | .clock now => directory.now ≤ now
  | .crash process => directory.commands.values.all fun command =>
      command.process ≠ process || !command.point.isWriting

/-! ## The invariant -/

def LeaseDirectory.Counts (directory : LeaseDirectory) (command : LeaseCommand) : Prop :=
  directory.isLive command = true ∧ (command.point.isWriting = true ∨ directory.now ≤ command.expiry)

/-- What holds of the files and the commands. -/
structure Leased (digest : JsString → JsString) (directory : LeaseDirectory) : Prop where
  numbered : ∀ id command, directory.commands.get? id = some command → id < directory.nextCommand
  created : ∀ path file, directory.files.get? path = some file → file.id < directory.nextFile
  placed : ∀ path path' file file', directory.files.get? path = some file → directory.files.get? path' = some file' →
    file.id = file'.id → path = path'
  opened : ∀ id command slot, directory.commands.get? id = some command → command.point = .opening slot →
    slot < command.concurrency
  owned : ∀ id command slot file, directory.commands.get? id = some command → command.point.own? = some (slot, file) →
    slot < command.concurrency ∧ file < directory.nextFile
  alone : ∀ id id' command command' slot slot' file, directory.commands.get? id = some command →
    directory.commands.get? id' = some command' → command.point.own? = some (slot, file) →
    command'.point.own? = some (slot', file) → id = id'
  kept : ∀ id command slot file, directory.commands.get? id = some command → command.point.own? = some (slot, file) →
    directory.Counts command → ∃ there, directory.files.get? (command.path digest slot) = some there ∧
      there.id = file ∧ (command.point.isWriting = true ∧ there.record = none ∨ command.point.isWriting = false ∧
        ∃ createdAt, there.record = some ⟨some command.process.pid, createdAt, some command.expiry⟩)
  unwritten : ∀ path file, directory.files.get? path = some file → file.record = none → ∃ id command slot createdAt,
    directory.commands.get? id = some command ∧ directory.isLive command = true ∧
      command.point = .writing slot file.id createdAt
  dated : ∀ path file record, directory.files.get? path = some file → file.record = some record →
    record.expiresAt.isSome
  judged : ∀ id command slot file, directory.commands.get? id = some command → command.point = .unlinking slot file →
    file < directory.nextFile ∧ ∀ other owner slot', directory.commands.get? other = some owner →
      owner.point.own? = some (slot', file) → ¬ directory.Counts owner

section Steps

variable {digest : JsString → JsString} {directory : LeaseDirectory} {id : Nat} {command : LeaseCommand}

theorem Leased.new (now : Int) : Leased digest (.new now) := by
  refine ⟨?_, ?_, ?_, ?_, ?_, ?_, ?_, ?_, ?_, ?_⟩
  · intro id command hget
    cases hget
  · intro path file hget
    cases hget
  · intro path path' file file' hget
    cases hget
  · intro id command slot hget
    cases hget
  · intro id command slot file hget
    cases hget
  · intro id id' command command' slot slot' file hget
    cases hget
  · intro id command slot file hget
    cases hget
  · intro path file hget
    cases hget
  · intro path file record hget
    cases hget
  · intro id command slot file hget
    cases hget

section

variable (h : Leased digest directory)
include h

/-- A command that is not writing comes to wait elsewhere, and does not begin to write. -/
theorem Leased.setPoint (hget : directory.commands.get? id = some command)
    {point : LeasePoint} (hold : command.point.isWriting = false) (hnew : point.isWriting = false)
    (hown : point.own? = none ∨ point.own? = command.point.own?)
    (hopen : ∀ slot, point = .opening slot → slot < command.concurrency)
    (hunlink : ∀ slot file, point = .unlinking slot file → file < directory.nextFile ∧
      ∀ other owner slot', directory.commands.get? other = some owner → owner.point.own? = some (slot', file) →
        ¬ directory.Counts owner) : Leased digest (directory.setPoint id command point) := by
  -- what a command owns now, the command of this number owned before
  have howns : ∀ other owner slot file, (directory.setPoint id command point).commands.get? other = some owner →
      owner.point.own? = some (slot, file) → ∃ owner', directory.commands.get? other = some owner' ∧
        owner'.point.own? = some (slot, file) ∧ owner'.process = owner.process ∧ owner'.utility = owner.utility ∧
          owner'.concurrency = owner.concurrency ∧ owner'.deadline = owner.deadline ∧
          owner'.point.isWriting = owner.point.isWriting := by
    intro other owner slot file hother howner
    rw [setPoint_get?] at hother
    split at hother
    · next heq =>
      cases hother
      subst heq
      rcases hown with hnone | hsame
      · cases hnone.symm.trans howner
      · exact ⟨command, hget, hsame ▸ howner, rfl, rfl, rfl, rfl, hold.trans hnew.symm⟩
    · exact ⟨owner, hother, howner, rfl, rfl, rfl, rfl, rfl⟩
  refine ⟨fun other owner hother => ?_, h.created, h.placed, fun other owner slot hother hpoint => ?_,
    fun other owner slot file hother howner => ?_, fun other other' owner owner' slot slot' file hother hother' howner howner' => ?_,
    fun other owner slot file hother howner hcounts => ?_, fun path file hfile hrec => ?_, h.dated,
    fun other owner slot file hother hpoint => ?_⟩
  · rw [setPoint_get?] at hother
    split at hother
    · next heq => exact heq ▸ h.numbered id command hget
    · exact h.numbered other owner hother
  · rw [setPoint_get?] at hother
    split at hother
    · cases hother
      exact hopen slot hpoint
    · exact h.opened other owner slot hother hpoint
  · obtain ⟨before, hbef, hown', -, -, hconcurrency, -⟩ := howns other owner slot file hother howner
    rw [← hconcurrency]
    exact h.owned other before slot file hbef hown'
  · obtain ⟨before, hbef, hown', -⟩ := howns other owner slot file hother howner
    obtain ⟨before', hbef', hown'', -⟩ := howns other' owner' slot' file hother' howner'
    exact h.alone other other' before before' slot slot' file hbef hbef' hown' hown''
  · obtain ⟨before, hbef, hown', hproc, hutility, -, hdeadline, hwrite⟩ := howns other owner slot file hother howner
    have hlease : directory.Counts before := by
      obtain ⟨hlive, hcount⟩ := hcounts
      refine ⟨(isLive_congr hproc rfl).trans hlive, ?_⟩
      simpa [LeaseCommand.expiry, hdeadline, hwrite] using hcount
    have hthere := h.kept other before slot file hbef hown' hlease
    simpa [LeaseCommand.path, LeaseCommand.expiry, hutility, hproc, hdeadline, hwrite] using hthere
  · obtain ⟨writer, owner, slot, createdAt, hwriter, hlive, hpoint⟩ := h.unwritten path file hfile hrec
    refine ⟨writer, owner, slot, createdAt, ?_, hlive, hpoint⟩
    rw [setPoint_get?, if_neg, hwriter]
    rintro rfl
    cases hget.symm.trans hwriter
    rw [hpoint] at hold
    cases hold
  · have hjudged : file < directory.nextFile ∧ ∀ other owner slot', directory.commands.get? other = some owner →
        owner.point.own? = some (slot', file) → ¬ directory.Counts owner := by
      rw [setPoint_get?] at hother
      split at hother
      · cases hother
        exact hunlink slot file hpoint
      · exact h.judged other owner slot file hother hpoint
    refine ⟨hjudged.1, fun third owner' slot' hthird howner' hcounts => ?_⟩
    obtain ⟨before, hbef, hown', hproc, -, -, hdeadline, hwrite⟩ := howns third owner' slot' file hthird howner'
    refine hjudged.2 third before slot' hbef hown' ⟨?_, ?_⟩
    · exact (isLive_congr hproc rfl).trans hcounts.1
    · simpa [LeaseCommand.expiry, hdeadline, hwrite] using hcounts.2

theorem Leased.delete {path : LeasePath}
    (hfree : ∀ file, directory.files.get? path = some file → ∀ other owner slot,
      directory.commands.get? other = some owner → owner.point.own? = some (slot, file.id) →
        ¬ directory.Counts owner) :
    Leased digest { directory with files := directory.files.delete path } := by
  have hstays : ∀ other file, (directory.files.delete path).get? other = some file →
      directory.files.get? other = some file := by
    intro other file hfile
    rw [JsMap.get?_delete] at hfile
    split at hfile
    · cases hfile
    · exact hfile
  refine ⟨h.numbered, fun other file hfile => h.created other file (hstays other file hfile),
    fun other other' file file' hfile hfile' => h.placed other other' file file' (hstays _ _ hfile) (hstays _ _ hfile'),
    h.opened, h.owned, h.alone, fun other owner slot file hother howner hcounts => ?_,
    fun other file hfile hrec => h.unwritten other file (hstays _ _ hfile) hrec,
    fun other file record hfile => h.dated other file record (hstays _ _ hfile), h.judged⟩
  obtain ⟨there, hthere, hid, hrec⟩ := h.kept other owner slot file hother howner hcounts
  refine ⟨there, ?_, hid, hrec⟩
  rw [JsMap.get?_delete, if_neg, hthere]
  intro heq
  exact hfree there (heq ▸ hthere) other owner slot hother (hid ▸ howner) hcounts

section

variable (hget : directory.commands.get? id = some command)
  (hlive : directory.isLive command = true)
include hget hlive

theorem Leased.create {slot : Nat} (hpoint : command.point = .opening slot)
    (hfree : directory.files.get? (command.path digest slot) = none) :
    Leased digest ({ directory with
      files := directory.files.set (command.path digest slot) ⟨directory.nextFile, directory.now, none⟩
      nextFile := directory.nextFile + 1 }.setPoint id command (.writing slot directory.nextFile directory.now)) := by
  have hold : ∀ path file, directory.files.get? path = some file →
      (directory.files.set (command.path digest slot) ⟨directory.nextFile, directory.now, none⟩).get? path = some file := by
    intro path file hfile
    rw [JsMap.get?_set, if_neg, hfile]
    rintro rfl
    cases hfree.symm.trans hfile
  have hfiles : ∀ path file,
      (directory.files.set (command.path digest slot) ⟨directory.nextFile, directory.now, none⟩).get? path = some file →
      path = command.path digest slot ∧ file = ⟨directory.nextFile, directory.now, none⟩ ∨
        directory.files.get? path = some file := by
    intro path file hfile
    rw [JsMap.get?_set] at hfile
    split at hfile
    · next heq =>
      cases hfile
      exact .inl ⟨heq, rfl⟩
    · exact .inr hfile
  have hnil : command.point.own? = none := by rw [hpoint]; rfl
  refine ⟨fun other owner hother => ?_, fun path file hfile => ?_, fun path path' file file' hfile hfile' heq => ?_,
    fun other owner slot' hother hopen => ?_, fun other owner slot' file hother howner => ?_,
    fun other other' owner owner' slot₁ slot₂ file hother hother' howner howner' => ?_,
    fun other owner slot' file hother howner hcounts => ?_, fun path file hfile hrec => ?_,
    fun path file record hfile hrec => ?_, fun other owner slot' file hother hunlink => ?_⟩
  · rw [setPoint_get?] at hother
    split at hother
    · next heq => exact heq ▸ h.numbered id command hget
    · exact h.numbered other owner hother
  · rcases hfiles path file hfile with ⟨-, rfl⟩ | hfile
    · exact Nat.lt_succ_self _
    · exact Nat.lt_succ_of_lt (h.created path file hfile)
  · rcases hfiles path file hfile with ⟨rfl, rfl⟩ | hfile <;> rcases hfiles path' file' hfile' with ⟨rfl, rfl⟩ | hfile'
    · rfl
    · exact absurd (h.created path' file' hfile') (heq ▸ Nat.lt_irrefl _)
    · exact absurd (h.created path file hfile) (heq ▸ Nat.lt_irrefl _)
    · exact h.placed path path' file file' hfile hfile' heq
  · rw [setPoint_get?] at hother
    split at hother
    · cases hother
      cases hopen
    · exact h.opened other owner slot' hother hopen
  · rw [setPoint_get?] at hother
    split at hother
    · cases hother
      cases howner
      exact ⟨h.opened id command slot hget hpoint, Nat.lt_succ_self _⟩
    · obtain ⟨hslot, hfile⟩ := h.owned other owner slot' file hother howner
      exact ⟨hslot, Nat.lt_succ_of_lt hfile⟩
  · rw [setPoint_get?] at hother hother'
    split at hother <;> split at hother'
    · next heq heq' => rw [heq, heq']
    · -- what others own was created before
      cases hother
      cases howner
      exact absurd (h.owned other' owner' _ _ hother' howner').2 (Nat.lt_irrefl _)
    · cases hother'
      cases howner'
      exact absurd (h.owned other owner _ _ hother howner).2 (Nat.lt_irrefl _)
    · exact h.alone other other' owner owner' slot₁ slot₂ file hother hother' howner howner'
  · rw [setPoint_get?] at hother
    split at hother
    · cases hother
      cases howner
      exact ⟨_, JsMap.get?_set_self _ _ _, rfl, .inl ⟨rfl, rfl⟩⟩
    · obtain ⟨there, hthere, hkept⟩ := h.kept other owner slot' file hother howner hcounts
      exact ⟨there, hold _ there hthere, hkept⟩
  · rcases hfiles path file hfile with ⟨-, rfl⟩ | hfile
    · refine ⟨id, { command with point := .writing slot directory.nextFile directory.now }, slot, directory.now, ?_,
        hlive, rfl⟩
      rw [setPoint_get?, if_pos rfl]
    · obtain ⟨writer, owner, slot', createdAt, hwriter, hrest⟩ := h.unwritten path file hfile hrec
      refine ⟨writer, owner, slot', createdAt, ?_, hrest⟩
      rw [setPoint_get?, if_neg, hwriter]
      rintro rfl
      cases hget.symm.trans hwriter
      cases hpoint.symm.trans hrest.2
  · rcases hfiles path file hfile with ⟨-, rfl⟩ | hfile
    · cases hrec
    · exact h.dated path file record hfile hrec
  · rw [setPoint_get?] at hother
    split at hother
    · cases hother
      cases hunlink
    · obtain ⟨hfile, hjudged⟩ := h.judged other owner slot' file hother hunlink
      refine ⟨Nat.lt_succ_of_lt hfile, fun third owner' slot'' hthird howner' => ?_⟩
      rw [setPoint_get?] at hthird
      split at hthird
      · cases hthird
        cases howner'
        exact absurd hfile (Nat.lt_irrefl _)
      · exact hjudged third owner' slot'' hthird howner'

theorem Leased.write {slot file : Nat} {createdAt : Int}
    (hpoint : command.point = .writing slot file createdAt) :
    Leased digest (directory.writeFile digest id command slot file createdAt) := by
  have hown : command.point.own? = some (slot, file) := by rw [hpoint]; rfl
  have hcounts : directory.Counts command := ⟨hlive, .inl (by rw [hpoint]; rfl)⟩
  obtain ⟨there, hthere, hid, -⟩ := h.kept id command slot file hget hown hcounts
  -- the files are the same but for this one
  have hget? : ∀ path, (directory.writeFile digest id command slot file createdAt).files.get? path =
      if path = command.path digest slot then some { there with
        mtimeMs := directory.now
        record := some ⟨some command.process.pid, some createdAt, some command.expiry⟩ }
      else directory.files.get? path := by
    intro path
    simp only [writeFile, setPoint_files, JsMap.get?_modify, hthere, Option.map_some]
    rw [if_pos hid]
  have hcmds : ∀ other, (directory.writeFile digest id command slot file createdAt).commands.get? other =
      if other = id then some { command with point := .closing slot file } else directory.commands.get? other :=
    fun other => setPoint_get? _ id command _ other
  have hbef : ∀ path f, (directory.writeFile digest id command slot file createdAt).files.get? path = some f →
      ∃ f', directory.files.get? path = some f' ∧ f'.id = f.id := by
    intro path f hfile
    rw [hget?] at hfile
    split at hfile
    · next heq =>
      cases hfile
      exact ⟨there, heq ▸ hthere, rfl⟩
    · exact ⟨f, hfile, rfl⟩
  have hother : ∀ other owner slot' file', other ≠ id → directory.commands.get? other = some owner →
      owner.point.own? = some (slot', file') → file' ≠ file := by
    rintro other owner slot' file' hne hother howner rfl
    exact hne (h.alone other id owner command slot' slot file' hother hget howner hown)
  refine ⟨fun other owner hthird => ?_, fun path f hfile => ?_, fun path path' f f' hfile hfile' heq => ?_,
    fun other owner slot' hthird hopen => ?_, fun other owner slot' file' hthird howner => ?_,
    fun other other' owner owner' slot₁ slot₂ file' hthird hthird' howner howner' => ?_,
    fun other owner slot' file' hthird howner hcount => ?_, fun path f hfile hrec => ?_,
    fun path f record hfile hrec => ?_, fun other owner slot' file' hthird hunlink => ?_⟩
  · rw [hcmds] at hthird
    split at hthird
    · next heq => exact heq ▸ h.numbered id command hget
    · exact h.numbered other owner hthird
  · obtain ⟨f', hf', hsame⟩ := hbef path f hfile
    exact hsame ▸ h.created path f' hf'
  · obtain ⟨g, hg, hsame⟩ := hbef path f hfile
    obtain ⟨g', hg', hsame'⟩ := hbef path' f' hfile'
    exact h.placed path path' g g' hg hg' (by rw [hsame, hsame', heq])
  · rw [hcmds] at hthird
    split at hthird
    · cases hthird
      cases hopen
    · exact h.opened other owner slot' hthird hopen
  · rw [hcmds] at hthird
    split at hthird
    · cases hthird
      cases howner
      exact h.owned id command slot file hget hown
    · exact h.owned other owner slot' file' hthird howner
  · rw [hcmds] at hthird hthird'
    split at hthird <;> split at hthird'
    · next heq heq' => rw [heq, heq']
    · next hne =>
      cases hthird
      cases howner
      exact absurd rfl (hother other' owner' slot₂ _ hne hthird' howner')
    · next hne _ =>
      cases hthird'
      cases howner'
      exact absurd rfl (hother other owner slot₁ _ hne hthird howner)
    · exact h.alone other other' owner owner' slot₁ slot₂ file' hthird hthird' howner howner'
  · rw [hcmds] at hthird
    split at hthird
    · cases hthird
      cases howner
      exact ⟨_, (hget? _).trans (if_pos rfl), hid, .inr ⟨rfl, some createdAt, rfl⟩⟩
    · next hne =>
      obtain ⟨f, hf, hfile, hrec⟩ := h.kept other owner slot' file' hthird howner hcount
      refine ⟨f, ?_, hfile, hrec⟩
      rw [hget?, if_neg, hf]
      intro heq
      rw [heq, hthere, Option.some.injEq] at hf
      exact hother other owner slot' file' hne hthird howner (by rw [← hfile, ← hf, hid])
  · have hne : path ≠ command.path digest slot := by
      rintro rfl
      rw [hget?, if_pos rfl] at hfile
      cases hfile
      cases hrec
    rw [hget?, if_neg hne] at hfile
    obtain ⟨writer, owner, slot', created, hwriter, howner, hwrite⟩ := h.unwritten path f hfile hrec
    refine ⟨writer, owner, slot', created, ?_, howner, hwrite⟩
    rw [hcmds, if_neg, hwriter]
    rintro rfl
    cases hget.symm.trans hwriter
    rw [hpoint, LeasePoint.writing.injEq] at hwrite
    exact hne (h.placed _ _ f there hfile hthere (by rw [hid, hwrite.2.1]))
  · rw [hget?] at hfile
    split at hfile
    · cases hfile
      cases hrec
      rfl
    · exact h.dated path f record hfile hrec
  · rw [hcmds] at hthird
    split at hthird
    · cases hthird
      cases hunlink
    · obtain ⟨hfile, hjudged⟩ := h.judged other owner slot' file' hthird hunlink
      refine ⟨hfile, fun last owner' slot'' hlast howner' => ?_⟩
      rw [hcmds] at hlast
      split at hlast
      · cases hlast
        cases howner'
        exact absurd hcounts (hjudged id command slot hget hown)
      · exact hjudged last owner' slot'' hlast howner'

end

theorem Leased.of_fewer {directory' : LeaseDirectory}
    (hfiles : directory'.files = directory.files) (hcmds : directory'.commands = directory.commands)
    (hnextFile : directory'.nextFile = directory.nextFile) (hnextCommand : directory'.nextCommand = directory.nextCommand)
    (hcounts : ∀ command, directory'.Counts command → directory.Counts command)
    (hwriters : ∀ id command, directory.commands.get? id = some command → directory.isLive command = true →
      command.point.isWriting = true → directory'.isLive command = true) : Leased digest directory' := by
  refine ⟨?_, ?_, ?_, ?_, ?_, ?_, fun id command slot file hget hown hcount => ?_, fun path file hfile hrec => ?_, ?_,
    fun id command slot file hget hpoint => ?_⟩
  · rw [hcmds, hnextCommand]
    exact h.numbered
  · rw [hfiles, hnextFile]
    exact h.created
  · rw [hfiles]
    exact h.placed
  · rw [hcmds]
    exact h.opened
  · rw [hcmds, hnextFile]
    exact h.owned
  · rw [hcmds]
    exact h.alone
  · rw [hcmds] at hget
    rw [hfiles]
    exact h.kept id command slot file hget hown (hcounts command hcount)
  · rw [hfiles] at hfile
    obtain ⟨writer, owner, slot, createdAt, hwriter, hlive, hpoint⟩ := h.unwritten path file hfile hrec
    refine ⟨writer, owner, slot, createdAt, by rw [hcmds]; exact hwriter, ?_, hpoint⟩
    exact hwriters writer owner hwriter hlive (by rw [hpoint]; rfl)
  · rw [hfiles]
    exact h.dated
  · rw [hcmds] at hget ⊢
    rw [hnextFile]
    obtain ⟨hfile, hjudged⟩ := h.judged id command slot file hget hpoint
    exact ⟨hfile, fun other owner slot' hother hown hcount => hjudged other owner slot' hother hown (hcounts owner hcount)⟩

/-- A new command owns nothing. -/
theorem Leased.acquire (process : Process) (utility : JsString) (concurrency : Nat)
    (deadline : Int) : Leased digest (directory.step digest (.acquire process utility concurrency deadline)) := by
  have hget? : ∀ id, (directory.step digest (.acquire process utility concurrency deadline)).commands.get? id =
      if id = directory.nextCommand then some ⟨process, utility, concurrency, deadline, .looping⟩
      else directory.commands.get? id := fun id => JsMap.get?_set _ _ _ _
  have hown : ∀ id command slot file,
      (directory.step digest (.acquire process utility concurrency deadline)).commands.get? id = some command →
      command.point.own? = some (slot, file) → directory.commands.get? id = some command := by
    intro id command slot file hget hown
    rw [hget?] at hget
    split at hget
    · cases hget
      cases hown
    · exact hget
  refine ⟨fun id command hget => ?_, h.created, h.placed, fun id command slot hget hpoint => ?_,
    fun id command slot file hget howns => h.owned id command slot file (hown _ _ _ _ hget howns) howns,
    fun id id' command command' slot slot' file hget hget' howns howns' =>
      h.alone id id' command command' slot slot' file (hown _ _ _ _ hget howns) (hown _ _ _ _ hget' howns') howns howns',
    fun id command slot file hget howns => h.kept id command slot file (hown _ _ _ _ hget howns) howns,
    fun path file hfile hrec => ?_, h.dated, fun id command slot file hget hpoint => ?_⟩
  · rw [hget?] at hget
    split at hget
    · next heq => exact heq ▸ Nat.lt_succ_self _
    · exact Nat.lt_succ_of_lt (h.numbered id command hget)
  · rw [hget?] at hget
    split at hget
    · cases hget
      cases hpoint
    · exact h.opened id command slot hget hpoint
  · obtain ⟨writer, owner, slot, createdAt, hwriter, hrest⟩ := h.unwritten path file hfile hrec
    refine ⟨writer, owner, slot, createdAt, ?_, hrest⟩
    rw [hget?, if_neg (Nat.ne_of_lt (h.numbered writer owner hwriter)), hwriter]
  · rw [hget?] at hget
    split at hget
    · cases hget
      cases hpoint
    · obtain ⟨hfile, hjudged⟩ := h.judged id command slot file hget hpoint
      exact ⟨hfile, fun other owner slot' hother howns => hjudged other owner slot' (hown _ _ _ _ hother howns) howns⟩

end

/-! ## Every step -/

section

variable (h : Leased digest directory)
include h

section

variable (hget : directory.commands.get? id = some command) (hold : command.point.isWriting = false)
include hget hold

theorem Leased.leave {point : LeasePoint} (hnew : point.isWriting = false)
    (hown : point.own? = none) (hopen : ∀ slot, point ≠ .opening slot)
    (hunlink : ∀ slot file, point ≠ .unlinking slot file) : Leased digest (directory.setPoint id command point) :=
  h.setPoint hget hold hnew (.inl hown) (fun slot heq => absurd heq (hopen slot))
    fun slot file heq => absurd heq (hunlink slot file)

theorem Leased.trySlot (slot : Nat) :
    Leased digest (directory.setPoint id command (command.trySlot slot)) := by
  unfold LeaseCommand.trySlot
  split
  · next hslot =>
    refine h.setPoint hget hold rfl (.inl rfl) ?_ ?_
    · intro slot' heq
      cases heq
      exact hslot
    · intro slot' file heq
      cases heq
  · exact h.leave hget hold rfl rfl nofun nofun

end

theorem Leased.not_stale {path : LeasePath} {file : LeaseFile}
    (hfile : directory.files.get? path = some file) {record : LeaseRecord} (hrec : file.record = some record)
    {otherProgram : Bool} (hstale : record.isStale directory.now (directory.processIsAlive otherProgram) = true)
    {owner : LeaseCommand} {slot : Nat} (hget : directory.commands.get? id = some owner)
    (hown : owner.point.own? = some (slot, file.id)) : ¬ directory.Counts owner := by
  rintro ⟨hlive, hcount⟩
  obtain ⟨there, hthere, hid, hwr⟩ := h.kept id owner slot file.id hget hown ⟨hlive, hcount⟩
  have hpath := h.placed _ _ there file hthere hfile hid
  rw [hpath, hfile, Option.some.injEq] at hthere
  subst hthere
  rcases hwr with ⟨-, hnone⟩ | ⟨hdone, createdAt, hsome⟩
  · cases hnone.symm.trans hrec
  · rw [hrec, Option.some.injEq] at hsome
    subst hsome
    have hunexpired : ¬ owner.expiry < directory.now := by
      rcases hcount with hwrite | hcount
      · rw [hdone] at hwrite
        cases hwrite
      · omega
    have halive : directory.processIsAlive otherProgram owner.process.pid = true := by
      have hmem : owner ∈ directory.commands.values := JsMap.mem_values_of_get? hget
      have hany : (directory.commands.values.any fun command =>
          command.process.pid = owner.process.pid && directory.isLive command) = true :=
        List.any_eq_true.mpr ⟨owner, hmem, by simp [hlive]⟩
      simp only [processIsAlive, hany, Bool.true_or]
    have hpid : owner.process.pid ≠ 0 := Nat.ne_of_gt owner.process.pid_pos
    simp [LeaseRecord.isStale, hunexpired, halive, hpid] at hstale

theorem Leased.advance (hget : directory.commands.get? id = some command)
    (hlive : directory.isLive command = true) {answer : LeaseAnswer}
    (hkept : LeasesKept digest directory (.advance id answer) = true) :
    Leased digest (directory.advance digest id command answer) := by
  simp only [LeasesKept, hget, Option.all_some] at hkept
  unfold LeaseDirectory.advance
  cases hpoint : command.point with
  | looping =>
    have hold : command.point.isWriting = false := by rw [hpoint]; rfl
    dsimp only
    split
    · exact h.leave hget hold rfl rfl nofun nofun
    · split
      · exact h.leave hget hold rfl rfl nofun nofun
      · exact h.trySlot hget hold 0
  | opening slot =>
    have hold : command.point.isWriting = false := by rw [hpoint]; rfl
    dsimp only
    split
    · exact h.leave hget hold rfl rfl nofun nofun
    · unfold createFile
      split
      · exact h.leave hget hold rfl rfl nofun nofun
      · next hfree => exact h.create hget hlive hpoint hfree
  | writing slot file createdAt =>
    have hwr : answer.failed = false := by simpa [hpoint] using hkept
    dsimp only
    rw [if_neg (by simp [hwr])]
    exact h.write hget hlive hpoint
  | closing slot file =>
    have hold : command.point.isWriting = false := by rw [hpoint]; rfl
    dsimp only
    split
    · exact h.leave hget hold rfl rfl nofun nofun
    · exact h.setPoint hget hold rfl (.inr (by rw [hpoint]; rfl)) nofun nofun
  | stating slot =>
    have hold : command.point.isWriting = false := by rw [hpoint]; rfl
    dsimp only
    split
    · exact h.trySlot hget hold _
    · unfold statFile
      split
      · exact h.trySlot hget hold _
      · split
        · exact h.trySlot hget hold _
        · exact h.leave hget hold rfl rfl nofun nofun
  | reading slot =>
    have hold : command.point.isWriting = false := by rw [hpoint]; rfl
    dsimp only
    split
    · exact h.trySlot hget hold _
    · unfold readFile
      split
      · exact h.trySlot hget hold _
      · next file hfile =>
        split
        · next hstale =>
          obtain ⟨record, hrec, hjudged⟩ := Option.any_eq_true _ _ |>.mp hstale
          refine h.setPoint hget hold rfl (.inl rfl) nofun fun slot' judged heq => ?_
          cases heq
          exact ⟨h.created _ file hfile, fun other owner slot'' hother hown =>
            h.not_stale hfile hrec hjudged hother hown⟩
        · exact h.trySlot hget hold _
  | unlinking slot file =>
    have hold : command.point.isWriting = false := by rw [hpoint]; rfl
    dsimp only
    unfold unlink
    split
    · exact h.trySlot hget hold _
    · -- the file at the path is the one that was judged
      have hdeleted : Leased digest { directory with files := directory.files.delete (command.path digest slot) } := by
        refine h.delete fun there hthere other owner slot' hother hown => ?_
        have hsame : there.id = file := by simpa [hpoint, hthere] using hkept
        exact (h.judged id command slot file hget hpoint).2 other owner slot' hother (hsame ▸ hown)
      exact hdeleted.trySlot hget hold _
  | retrying =>
    have hold : command.point.isWriting = false := by rw [hpoint]; rfl
    dsimp only
    split
    · exact h.leave hget hold rfl rfl nofun nofun
    · exact h.leave hget hold rfl rfl nofun nofun
  | holding slot file => exact h
  | ended => exact h

theorem Leased.release (hget : directory.commands.get? id = some command) {failed : Bool}
    (hkept : LeasesKept digest directory (.release id failed) = true) :
    Leased digest (directory.releaseLease digest id command failed) := by
  simp only [LeasesKept, hget, Option.all_some] at hkept
  unfold releaseLease
  cases hpoint : command.point with
  | holding slot file =>
    have hold : command.point.isWriting = false := by rw [hpoint]; rfl
    have hended : Leased digest (directory.setPoint id command .ended) := h.leave hget hold rfl rfl nofun nofun
    dsimp only
    unfold unlink
    split
    · exact hended
    · refine hended.delete fun there hthere other owner slot' hother hown => ?_
      have hsame : there.id = file := by
        have hthere' : directory.files.get? (command.path digest slot) = some there := hthere
        simpa [hpoint, hthere'] using hkept
      rw [setPoint_get?] at hother
      split at hother
      · cases hother
        cases hown
      · next hne =>
        rw [hsame] at hown
        exact absurd (h.alone other id owner command slot' slot file hother hget hown (by rw [hpoint]; rfl)) hne
  | _ => exact h

theorem Leased.step {event : LeaseEvent} (hkept : LeasesKept digest directory event = true) :
    Leased digest (directory.step digest event) := by
  cases event with
  | acquire process utility concurrency deadline => exact h.acquire process utility concurrency deadline
  | advance id answer =>
    simp only [LeaseDirectory.step]
    split
    · exact h
    · next command hget =>
      split
      · next hlive => exact h.advance hget hlive hkept
      · exact h
  | release id failed =>
    simp only [LeaseDirectory.step]
    split
    · exact h
    · next command hget =>
      split
      · exact h.release hget hkept
      · exact h
  | clock now =>
    have hlater : directory.now ≤ now := by simpa [LeasesKept] using hkept
    refine h.of_fewer rfl rfl rfl rfl (fun command hcounts => ⟨hcounts.1, hcounts.2.imp_right fun hcount => ?_⟩)
      fun _ _ _ hlive _ => hlive
    exact Int.le_trans hlater hcount
  | crash process =>
    have hrun : ∀ command, (directory.step digest (.crash process)).isLive command = true →
        directory.isLive command = true := by
      intro command hlive
      rw [isLive_iff] at hlive ⊢
      exact fun hmem => hlive (List.mem_cons_of_mem _ hmem)
    refine h.of_fewer rfl rfl rfl rfl (fun command hcounts => ⟨hrun command hcounts.1, hcounts.2⟩)
      fun writer command hwriter hlive hwrite => ?_
    have hother : command.process ≠ process := by
      simp only [LeasesKept, List.all_eq_true] at hkept
      simpa [hwrite] using hkept command (JsMap.mem_values_of_get? hwriter)
    rw [isLive_iff] at hlive ⊢
    exact fun hmem => (List.mem_cons.mp hmem).elim hother hlive

end

end Steps

/-! ## After every run -/

def LeaseDirectory.isHolder (directory : LeaseDirectory) (command : LeaseCommand) : Bool :=
  directory.isLive command && command.point.isHolding && decide (directory.now ≤ command.expiry)

/-- Those of a utility, among the commands that were limited to this many. -/
def LeaseDirectory.holders (directory : LeaseDirectory) (utility : JsString) (concurrency : Nat) : List LeaseCommand :=
  directory.commands.values.filter fun command =>
    directory.isHolder command && decide (command.utility = utility ∧ command.concurrency ≤ concurrency)

/-- From some time on, every command that comes to reclaim this file does so. -/
def IsReclaimed (digest : JsString → JsString) (path : LeasePath) (file : LeaseFile) : Prop :=
  ∃ time : Int, ∀ (directory : LeaseDirectory) (id : Nat) (command : LeaseCommand) (slot : Nat)
    (aborted otherProgram : Bool), directory.commands.get? id = some command → directory.isLive command = true →
    command.point = .stating slot → command.path digest slot = path → directory.files.get? path = some file →
    time ≤ directory.now → (runSteps (LeaseDirectory.step digest) directory
      (List.replicate 3 (.advance id ⟨aborted, false, otherProgram⟩))).files.get? path = none

structure LeasesSound (digest : JsString → JsString) (directory : LeaseDirectory) : Prop where
  limited : ∀ utility concurrency, (directory.holders utility concurrency).length ≤ concurrency
  held : ∀ id command slot file, directory.commands.get? id = some command → directory.isHolder command = true →
    command.point = .holding slot file →
      ∃ there, directory.files.get? (command.path digest slot) = some there ∧ there.id = file
  recoverable : ∀ path file, directory.files.get? path = some file →
    (∃ id command slot createdAt, directory.commands.get? id = some command ∧ directory.isLive command = true ∧
      command.point = .writing slot file.id createdAt) ∨ IsReclaimed digest path file

section Sound

variable {digest : JsString → JsString} {directory : LeaseDirectory}

theorem isHolder_iff {command : LeaseCommand} : directory.isHolder command = true ↔
    (∃ slot file, command.point = .holding slot file) ∧ directory.isLive command = true ∧
      directory.now ≤ command.expiry := by
  simp only [isHolder, Bool.and_eq_true, decide_eq_true_eq]
  constructor
  · rintro ⟨⟨hlive, hholding⟩, hexpiry⟩
    refine ⟨?_, hlive, hexpiry⟩
    cases hpoint : command.point with
    | holding slot file => exact ⟨slot, file, rfl⟩
    | _ => simp [hpoint, LeasePoint.isHolding] at hholding
  · rintro ⟨⟨slot, file, hpoint⟩, hlive, hexpiry⟩
    exact ⟨⟨hlive, by rw [hpoint]; rfl⟩, hexpiry⟩

theorem isReclaimed_of_dated {path : LeasePath} {file : LeaseFile} {record : LeaseRecord}
    (hrec : file.record = some record) (hdated : record.expiresAt.isSome) : IsReclaimed digest path file := by
  obtain ⟨expiry, hexpiry⟩ := Option.isSome_iff_exists.mp hdated
  refine ⟨max (expiry + 1) (file.mtimeMs + newLeaseGraceMs), ?_⟩
  rintro directory id command slot aborted otherProgram hget hlive hpoint rfl hfile htime
  have hpast : expiry < directory.now := by omega
  have hold : ¬ directory.now - file.mtimeMs < newLeaseGraceMs := by omega
  let reading := directory.setPoint id command (.reading slot)
  have hstat : directory.step digest (.advance id ⟨aborted, false, otherProgram⟩) = reading := by
    rw [step_advance digest hget hlive]
    simp [advance, hpoint, statFile, hfile, hold, reading]
  have hgetReading : reading.commands.get? id = some { command with point := .reading slot } := by
    rw [setPoint_get?, if_pos rfl]
  let judged := reading.setPoint id { command with point := .reading slot } (.unlinking slot file.id)
  have hread : reading.step digest (.advance id ⟨aborted, false, otherProgram⟩) = judged := by
    rw [step_advance digest hgetReading hlive]
    have hthere : reading.files.get? (LeaseCommand.path digest { command with point := .reading slot } slot) = some file := hfile
    have hnow : reading.now = directory.now := rfl
    simp [advance, readFile, hthere, hrec, LeaseRecord.isStale, hexpiry, hnow, hpast, judged]
  have hgetJudged : judged.commands.get? id = some { command with point := .unlinking slot file.id } := by
    rw [setPoint_get?, if_pos rfl]
  have hunlink : (judged.step digest (.advance id ⟨aborted, false, otherProgram⟩)).files =
      directory.files.delete (command.path digest slot) := by
    rw [step_advance digest hgetJudged hlive]
    rfl
  simp only [List.replicate, runSteps_cons, runSteps_nil, hstat, hread, hunlink]
  rw [JsMap.get?_delete, if_pos rfl]

/-- What has no record is never reclaimed, however late it is: `JSON.parse` fails, and the error is dropped. -/
theorem not_isReclaimed {utility : JsString} {slot : Nat} {file : LeaseFile} (hrec : file.record = none) :
    ¬ IsReclaimed digest ⟨utilityKey digest utility, slot⟩ file := by
  rintro ⟨time, hreclaimed⟩
  let command : LeaseCommand := ⟨⟨0, 1, Nat.one_pos⟩, utility, slot + 1, 0, .stating slot⟩
  let late : LeaseDirectory :=
    ⟨.set .empty (command.path digest slot) file, .set .empty 0 command, 0, 1, max time (file.mtimeMs + newLeaseGraceMs), []⟩
  have hlive : late.isLive command = true := isLive_iff.mpr List.not_mem_nil
  have hget : late.commands.get? 0 = some command := JsMap.get?_set_self _ _ _
  have hfile : late.files.get? (command.path digest slot) = some file := JsMap.get?_set_self _ _ _
  have hnow : late.now = max time (file.mtimeMs + newLeaseGraceMs) := rfl
  have hold : ¬ late.now - file.mtimeMs < newLeaseGraceMs := by omega
  have hnone := hreclaimed late 0 command slot false false hget hlive rfl rfl hfile (by omega)
  let reading := late.setPoint 0 command (.reading slot)
  have hstat : late.step digest (.advance 0 ⟨false, false, false⟩) = reading := by
    rw [step_advance digest hget hlive]
    simp [advance, command, statFile, hfile, hold, reading]
  have hgetReading : reading.commands.get? 0 = some { command with point := .reading slot } := by
    rw [setPoint_get?, if_pos rfl]
  let retrying := reading.setPoint 0 { command with point := .reading slot } .retrying
  have hread : reading.step digest (.advance 0 ⟨false, false, false⟩) = retrying := by
    rw [step_advance digest hgetReading hlive]
    have hthere : reading.files.get? (LeaseCommand.path digest { command with point := .reading slot } slot) = some file := hfile
    have hlast : LeaseCommand.trySlot { command with point := .reading slot } (slot + 1) = .retrying := by
      simp [LeaseCommand.trySlot, command]
    simp [advance, readFile, hthere, hrec, hlast, retrying]
  have hgetRetrying : retrying.commands.get? 0 = some { command with point := .retrying } := by
    rw [setPoint_get?, if_pos rfl]
  have hloop : (retrying.step digest (.advance 0 ⟨false, false, false⟩)).files = late.files := by
    rw [step_advance digest hgetRetrying hlive]
    rfl
  simp only [List.replicate, runSteps_cons, runSteps_nil, hstat, hread, hloop] at hnone
  cases hnone.symm.trans hfile

theorem Leased.limited (h : Leased digest directory) (utility : JsString) (concurrency : Nat) :
    (directory.holders utility concurrency).length ≤ concurrency := by
  let counted : Nat × LeaseCommand → Bool := fun e =>
    directory.isHolder e.2 && decide (e.2.utility = utility ∧ e.2.concurrency ≤ concurrency)
  let slotOf : Nat × LeaseCommand → Nat := fun e => (e.2.point.own?.getD (0, 0)).1
  have hlen : (directory.holders utility concurrency).length = (directory.commands.entries.filter counted).length := by
    simp only [holders, JsMap.values, List.filter_map, List.length_map]
    rfl
  have hmem : ∀ e ∈ directory.commands.entries.filter counted, directory.commands.get? e.1 = some e.2 ∧
      e.2.utility = utility ∧ ∃ file, e.2.point.own? = some (slotOf e, file) ∧ directory.Counts e.2 ∧
        slotOf e < concurrency := by
    intro e he
    obtain ⟨hentry, hcount⟩ := List.mem_filter.mp he
    simp only [counted, Bool.and_eq_true, decide_eq_true_eq] at hcount
    obtain ⟨hholder, hutility, hlimit⟩ := hcount
    obtain ⟨⟨slot, file, hpoint⟩, hlive, hexpiry⟩ := isHolder_iff.mp hholder
    have hget := JsMap.get?_of_mem hentry
    have hown : e.2.point.own? = some (slotOf e, file) := by simp [slotOf, hpoint, LeasePoint.own?]
    exact ⟨hget, hutility, file, hown, ⟨hlive, .inr hexpiry⟩,
      Nat.lt_of_lt_of_le (h.owned e.1 e.2 (slotOf e) file hget hown).1 hlimit⟩
  have hnodup : ((directory.commands.entries.filter counted).map slotOf).Nodup := by
    refine List.Nodup.map_on ?_ (List.Nodup.filter _ (List.Nodup.of_map _ directory.commands.nodup))
    intro e he e' he' heq
    obtain ⟨hget, hutility, file, hown, hcounts, -⟩ := hmem e he
    obtain ⟨hget', hutility', file', hown', hcounts', -⟩ := hmem e' he'
    obtain ⟨there, hthere, hid, -⟩ := h.kept e.1 e.2 (slotOf e) file hget hown hcounts
    obtain ⟨there', hthere', hid', -⟩ := h.kept e'.1 e'.2 (slotOf e') file' hget' hown' hcounts'
    -- one path, so one file, so one command
    simp only [LeaseCommand.path, hutility, hutility', heq] at hthere hthere'
    rw [hthere, Option.some.injEq] at hthere'
    have hfile : file' = file := by rw [← hid, ← hid', hthere']
    subst hfile
    have hsame : e.1 = e'.1 := h.alone e.1 e'.1 e.2 e'.2 _ _ file' hget hget' hown hown'
    have hcommand : e.2 = e'.2 := by
      rw [hsame, hget', Option.some.injEq] at hget
      exact hget.symm
    exact Prod.ext hsame hcommand
  have hsubset : (directory.commands.entries.filter counted).map slotOf ⊆ List.range concurrency := by
    intro slot hslot
    obtain ⟨e, he, rfl⟩ := List.mem_map.mp hslot
    obtain ⟨-, -, -, -, -, hlt⟩ := hmem e he
    exact List.mem_range.mpr hlt
  have hle := (List.subperm_of_subset hnodup hsubset).length_le
  rwa [List.length_map, List.length_range, ← hlen] at hle

theorem Leased.sound (h : Leased digest directory) : LeasesSound digest directory where
  limited := h.limited
  held id command slot file hget hholder hpoint := by
    obtain ⟨-, hlive, hexpiry⟩ := isHolder_iff.mp hholder
    obtain ⟨there, hthere, hid, -⟩ :=
      h.kept id command slot file hget (by rw [hpoint]; rfl) ⟨hlive, .inr hexpiry⟩
    exact ⟨there, hthere, hid⟩
  recoverable path file hfile := by
    cases hrec : file.record with
    | none => exact .inl (h.unwritten path file hfile hrec)
    | some record => exact .inr (isReclaimed_of_dated hrec (h.dated path file record hfile hrec))

end Sound

/-- After a run whose steps meet the condition the limits are kept, each holder has its file, and every other file
can be reclaimed some time. -/
theorem leases_sound {digest : JsString → JsString} {now : Int} {events : List LeaseEvent}
    (hkept : RunMeets (LeaseDirectory.step digest) (fun d e => LeasesKept digest d e) (.new now) events) :
    LeasesSound digest (runSteps (LeaseDirectory.step digest) (.new now) events) := by
  have hleased : Leased digest (runSteps (LeaseDirectory.step digest) (.new now) events) :=
    runSteps_invariant_of_meets (I := Leased digest) (fun _ _ h hone => h.step hone) (.new now) hkept
  exact hleased.sound

/-! ## Two runs -/

def sampleDigest : JsString → JsString := id

def curl : JsString := js "curl"

def firstProcess : Process := ⟨0, 100, by decide⟩

def secondProcess : Process := ⟨1, 101, by decide⟩

def thirdProcess : Process := ⟨2, 102, by decide⟩

def goesOn (id : Nat) : LeaseEvent := .advance id ⟨false, false, false⟩

/-- One slot: the holder crashes, and another command comes to have the slot. -/
def reclaimedRun : List LeaseEvent :=
  .acquire firstProcess curl 1 60000 :: List.replicate 4 (goesOn 0) ++
  [.crash firstProcess, .clock 10000, .acquire secondProcess curl 1 70000] ++ List.replicate 10 (goesOn 1)

theorem leases_sound_reclaimedRun :
    LeasesSound sampleDigest (runSteps (LeaseDirectory.step sampleDigest) (.new 0) reclaimedRun) :=
  leases_sound (by decide +kernel)

/-- Two commands judge the lease of a process that has crashed. The second one removes it and has the slot; then the
first one removes the lease of the second. -/
def overtakenRun : List LeaseEvent :=
  .acquire firstProcess curl 1 60000 :: List.replicate 4 (goesOn 0) ++
  [.crash firstProcess, .clock 10000, .acquire secondProcess curl 1 70000, .acquire thirdProcess curl 1 70000] ++
  List.replicate 4 (goesOn 1) ++ List.replicate 10 (goesOn 2) ++ List.replicate 6 (goesOn 1)

/-- A process crashes before it has written its lease. -/
def abandonedRun : List LeaseEvent :=
  [.acquire firstProcess curl 1 60000, goesOn 0, goesOn 0, .crash firstProcess]

/-- There are two holders of the one slot; and a lease that was not written is never reclaimed. -/
theorem lease_overtaken_or_abandoned :
    ¬ LeasesSound sampleDigest (runSteps (LeaseDirectory.step sampleDigest) (.new 0) overtakenRun) ∧
      ¬ LeasesSound sampleDigest (runSteps (LeaseDirectory.step sampleDigest) (.new 0) abandonedRun) := by
  constructor
  · intro hsound
    have htwo : ((runSteps (LeaseDirectory.step sampleDigest) (.new 0) overtakenRun).holders curl 1).length = 2 := by
      decide +kernel
    have hone := hsound.limited curl 1
    omega
  · intro hsound
    let directory := runSteps (LeaseDirectory.step sampleDigest) (.new 0) abandonedRun
    have hfile : directory.files.get? ⟨curl, 0⟩ = some ⟨0, 0, none⟩ := by decide +kernel
    rcases hsound.recoverable _ _ hfile with ⟨id, command, slot, createdAt, hget, hlive, -⟩ | hreclaimed
    · have hdead : directory.commands.values.all (fun command => !directory.isLive command) = true := by decide +kernel
      have hone := List.all_eq_true.mp hdead command (JsMap.mem_values_of_get? hget)
      rw [hlive] at hone
      cases hone
    · have hpath : (⟨curl, 0⟩ : LeasePath) = ⟨utilityKey sampleDigest curl, 0⟩ := by decide
      rw [hpath] at hreclaimed
      exact not_isReclaimed rfl hreclaimed

end Beale.Shell
