import Beale.Library.JsMap
import Beale.Library.Json
import Beale.Library.Client

/-!
# The angles of a surface

`#mergeAngles` of `research-track.ts`, and the angles that the checkpoints of a surface
record. The updates go into a map by name, and what the map comes to is checked as a whole
before anything is written.
-/

namespace Beale.Track

open Beale.Library Client

structure ResearchTrackVector where
  attackerControl : JsString
  trustBoundary : JsString
  failureMode : JsString
  unauthorizedEffect : JsString

inductive AngleStatus where
  | opened
  | supported
  | ruledOut
  | blocked
  deriving DecidableEq

def AngleStatus.text : AngleStatus → JsString
  | .opened => js "open"
  | .supported => js "supported"
  | .ruledOut => js "ruled_out"
  | .blocked => js "blocked"

/-- A `StoredResearchTrackAngle`: angles that were stored before there were vectors have none. -/
structure StoredResearchTrackAngle where
  name : JsString
  status : AngleStatus
  vector : Option ResearchTrackVector
  proofQuestion : JsString
  evidenceRefs : List JsString
  nextAction : JsString

def maxUpdates : Nat := 4

def maxAngles : Nat := 24

def required (value : Option Json) (label : JsString) : Except JsString JsString :=
  match value.bind Json.asString? with
  | some text =>
    if isBlank text then .error (label ++ js " must be a non-empty string.") else .ok (trim text)
  | none => .error (label ++ js " must be a non-empty string.")

def requiredVector (value : Option Json) : Except JsString ResearchTrackVector :=
  match value with
  | some (.obj members) => do
    let part (key : String) :=
      required ((Json.obj members).field? (js key)) (js "angle vector." ++ js key)
    return ⟨← part "attackerControl", ← part "trustBoundary", ← part "failureMode",
      ← part "unauthorizedEffect"⟩
  | _ => .error (js "A track attacker path needs an attacker-control-to-impact vector.")

def ResearchTrackVector.parts (vector : ResearchTrackVector) : List JsString :=
  [vector.attackerControl, vector.trustBoundary, vector.failureMode, vector.unauthorizedEffect]

/-- The texts of an array of at most eight short texts. -/
def shortRefs? (value : Option Json) : Option (List JsString) :=
  match value with
  | some (.arr refs) =>
    if refs.length ≤ 8 then
      (refs.mapM Json.asString?).filter fun texts => texts.all (·.length ≤ 168)
    else none
  | _ => none

/-- An update as it is recorded, but for its evidence, which is checked next. -/
def parseAngle (angle : Json) : Except JsString StoredResearchTrackAngle := do
  match angle with
  | .obj _ | .arr _ =>
    let name ← required (angle.field? (js "name")) (js "angle name")
    let vector ← requiredVector (angle.field? (js "vector"))
    let proofQuestion ← required (angle.field? (js "proofQuestion")) (js "angle proofQuestion")
    let nextAction ← required (angle.field? (js "nextAction")) (js "angle nextAction")
    let status := ofText AngleStatus.text [.opened, .supported, .ruledOut, .blocked]
      (angle.field? (js "status"))
    let bounded := name.length ≤ 160 && vector.parts.all (·.length ≤ 500)
      && proofQuestion.length ≤ 500 && nextAction.length ≤ 500
    match bounded, status, shortRefs? (angle.field? (js "evidenceRefs")) with
    | true, some status, some refs =>
      return ⟨name, status, some vector, proofQuestion, refs.eraseDups, nextAction⟩
    | _, _, _ => .error (js "A track attacker path exceeds its bounds or has an invalid status.")
  | _ => .error (js "A track attacker path is malformed.")

variable (toLowerCase : JsString → JsString)

def StoredResearchTrackAngle.key (angle : StoredResearchTrackAngle) : JsString :=
  toLowerCase angle.name

/-- The text that vectors are compared by. -/
def ResearchTrackVector.signature (vector : ResearchTrackVector) : JsString :=
  joinWith (js "|") (vector.parts.map fun part => collapseWhitespace (toLowerCase (trim part)))

def signatures (angles : List StoredResearchTrackAngle) : List JsString :=
  angles.filterMap fun angle => angle.vector.map (·.signature toLowerCase)

/-- The loop over the updates. `assertEvidenceRef` looks a reference up in the store. -/
def mergeEach (assertEvidenceRef : JsString → Except JsString Unit) :
    List Json → JsMap JsString StoredResearchTrackAngle → List JsString →
      Except JsString (JsMap JsString StoredResearchTrackAngle)
  | [], merged, _ => .ok merged
  | update :: updates, merged, seen => do
    let angle ← parseAngle update
    let key := angle.key toLowerCase
    if seen.contains key then throw (js "A track checkpoint cannot repeat an attacker path.")
    angle.evidenceRefs.forM assertEvidenceRef
    if [AngleStatus.supported, .ruledOut].contains angle.status && angle.evidenceRefs.isEmpty then
      throw (js ("A tested attacker path needs canonical evidence; "
        ++ "record negative evidence in memory."))
    mergeEach assertEvidenceRef updates (merged.set key angle) (key :: seen)

/-- `new Map(previous.map((angle) => [angle.name.toLowerCase(), angle]))`. -/
def angleMap (previous : List StoredResearchTrackAngle) : JsMap JsString StoredResearchTrackAngle :=
  (previous.map fun angle => (angle.key toLowerCase, angle)).foldl (fun m e => m.set e.1 e.2) .empty

def mergeAngles (assertEvidenceRef : JsString → Except JsString Unit)
    (previous : List StoredResearchTrackAngle) (updates : Option (List Json)) :
    Except JsString (List StoredResearchTrackAngle) :=
  match updates with
  | none | some [] => .ok previous
  | some updates => do
    if maxUpdates < updates.length then
      throw (js "Record 1 to 4 distinct attacker paths at each track checkpoint.")
    let merged ← mergeEach toLowerCase assertEvidenceRef updates (angleMap toLowerCase previous) []
    if maxAngles < merged.values.length then
      throw (js "A track surface can retain at most 24 attacker paths.")
    if ¬ (signatures toLowerCase merged.values).Nodup then
      throw (js "Track attacker paths must have distinct causal vectors, not renamed variants.")
    return merged.values

/-- What a checkpoint of a surface brings: its angles, the records that can be cited, and what
the checks of its other fields come to. -/
structure AngleCheckpoint where
  angles : Option (List Json)
  assertEvidenceRef : JsString → Except JsString Unit
  otherChecks : Except JsString Unit

/-- The angles that `checkpoint` writes, after all checks. -/
def AngleCheckpoint.merge (checkpoint : AngleCheckpoint) (stored : List StoredResearchTrackAngle) :
    Except JsString (List StoredResearchTrackAngle) := do
  let angles ← mergeAngles toLowerCase checkpoint.assertEvidenceRef stored checkpoint.angles
  checkpoint.otherChecks
  return angles

def recordAngles (stored : List StoredResearchTrackAngle) (checkpoint : AngleCheckpoint) :
    List StoredResearchTrackAngle :=
  ((checkpoint.merge toLowerCase stored).toOption).getD stored

/-! ## What is kept -/

/-- Names and vectors are distinct, and there are not too many angles. -/
structure AnglesSound (angles : List StoredResearchTrackAngle) : Prop where
  names : (angles.map (·.key toLowerCase)).Nodup
  vectors : (signatures toLowerCase angles).Nodup
  bounded : angles.length ≤ maxAngles

/-- Every angle is still there by its name, in the old order; one that no update names is the
same. -/
structure AnglesKept (updates : List Json) (previous merged : List StoredResearchTrackAngle) :
    Prop where
  names : previous.map (·.key toLowerCase) <+: merged.map (·.key toLowerCase)
  others : ∀ angle ∈ previous, angle ∈ merged ∨
    ∃ update ∈ updates, ∃ new ∈ merged, parseAngle update = .ok new ∧
      new.key toLowerCase = angle.key toLowerCase

variable {toLowerCase} {assertEvidenceRef : JsString → Except JsString Unit}
  {m merged : JsMap JsString StoredResearchTrackAngle}

/-- The angles of a map stand under their names. -/
def Named (toLowerCase : JsString → JsString) (m : JsMap JsString StoredResearchTrackAngle) : Prop :=
  ∀ key angle, m.get? key = some angle → key = angle.key toLowerCase

theorem Named.keys (h : Named toLowerCase m) : m.keys = m.values.map (·.key toLowerCase) := by
  rw [JsMap.keys, JsMap.values, List.map_map]
  refine List.map_congr_left fun e he => ?_
  exact h e.1 e.2 (JsMap.get?_of_mem he)

theorem Named.set (h : Named toLowerCase m) (angle : StoredResearchTrackAngle) :
    Named toLowerCase (m.set (angle.key toLowerCase) angle) := by
  intro key found hfound
  rw [JsMap.get?_set] at hfound
  split at hfound
  next hkey =>
    cases hfound
    exact hkey
  next => exact h key found hfound

theorem mergeEach_kept {updates : List Json} {seen : List JsString} (hnamed : Named toLowerCase m)
    (h : mergeEach toLowerCase assertEvidenceRef updates m seen = .ok merged) :
    Named toLowerCase merged ∧ m.keys <+: merged.keys ∧
      ∀ key angle, m.get? key = some angle → merged.get? key = some angle ∨
        ∃ update ∈ updates, ∃ new, merged.get? key = some new ∧ parseAngle update = .ok new := by
  induction updates generalizing m seen with
  | nil =>
    cases h
    exact ⟨hnamed, List.prefix_rfl, fun _ _ hget => .inl hget⟩
  | cons update updates ih =>
    obtain ⟨angle, hparse, h⟩ := exceptBind_ok.mp h
    obtain ⟨-, h⟩ := exceptGuard_ok.mp h
    obtain ⟨-, h⟩ := exceptThen_ok.mp h
    obtain ⟨-, h⟩ := exceptGuard_ok.mp h
    obtain ⟨hmerge, hkeys, hrest⟩ := ih (hnamed.set angle) h
    refine ⟨hmerge, (m.keys_prefix_set _ _).trans hkeys, fun key old hold => ?_⟩
    by_cases hkey : key = angle.key toLowerCase
    · -- the update stands for the angle, until another one does
      subst hkey
      rcases hrest _ angle (m.get?_set_self _ _) with hsame | ⟨later, hlater, hnew⟩
      · exact .inr ⟨update, List.mem_cons_self, angle, hsame, hparse⟩
      · exact .inr ⟨later, List.mem_cons_of_mem _ hlater, hnew⟩
    · have hget := hrest key old (by rw [JsMap.get?_set, if_neg hkey, hold])
      exact hget.imp_right fun ⟨later, hlater, hnew⟩ => ⟨later, List.mem_cons_of_mem _ hlater, hnew⟩

variable {previous next : List StoredResearchTrackAngle} {updates : Option (List Json)}

/-- A merge that succeeds keeps every angle, and what it comes to is sound again. -/
theorem mergeAngles_kept (hsound : AnglesSound toLowerCase previous)
    (h : mergeAngles toLowerCase assertEvidenceRef previous updates = .ok next) :
    AnglesSound toLowerCase next ∧ AnglesKept toLowerCase (updates.getD []) previous next := by
  have hents : (angleMap toLowerCase previous).entries =
      previous.map fun angle => (angle.key toLowerCase, angle) :=
    JsMap.entries_foldl_set_empty (by rw [List.map_map]; exact hsound.names)
  have hmem : ∀ angle ∈ previous,
      (angleMap toLowerCase previous).get? (angle.key toLowerCase) = some angle := fun angle ha =>
    JsMap.get?_of_mem (hents ▸ List.mem_map_of_mem ha)
  have hnamed : Named toLowerCase (angleMap toLowerCase previous) := by
    intro key angle hget
    have hentry := JsMap.mem_of_get? hget
    rw [hents] at hentry
    obtain ⟨_, -, heq⟩ := List.mem_map.mp hentry
    cases heq
    rfl
  unfold mergeAngles at h
  split at h
  · cases h
    exact ⟨hsound, List.prefix_rfl, fun angle ha => .inl ha⟩
  · cases h
    exact ⟨hsound, List.prefix_rfl, fun angle ha => .inl ha⟩
  · obtain ⟨-, h⟩ := exceptGuard_ok.mp h
    obtain ⟨merged, hmerge, h⟩ := exceptBind_ok.mp h
    obtain ⟨hfew, h⟩ := exceptGuard_ok.mp h
    obtain ⟨hdist, h⟩ := exceptGuard_ok.mp h
    cases h
    obtain ⟨hmerged, hkeys, hrest⟩ := mergeEach_kept hnamed hmerge
    refine ⟨⟨hmerged.keys ▸ merged.nodup, not_not.mp hdist, Nat.not_lt.mp hfew⟩, ?_, ?_⟩
    · rw [hmerged.keys, JsMap.keys, hents, List.map_map] at hkeys
      exact hkeys
    · intro angle ha
      rcases hrest _ angle (hmem angle ha) with hsame | ⟨update, hupd, new, hnew, hparse⟩
      · exact .inl (JsMap.mem_values_of_get? hsame)
      · exact .inr ⟨update, hupd, new, JsMap.mem_values_of_get? hnew, hparse, (hmerged _ _ hnew).symm⟩

variable (toLowerCase) in
theorem recordAngles_cases (stored : List StoredResearchTrackAngle) (checkpoint : AngleCheckpoint) :
    recordAngles toLowerCase stored checkpoint = stored ∨
      mergeAngles toLowerCase checkpoint.assertEvidenceRef stored checkpoint.angles =
        .ok (recordAngles toLowerCase stored checkpoint) := by
  unfold recordAngles
  cases hmerge : checkpoint.merge toLowerCase stored with
  | error message => exact .inl rfl
  | ok angles =>
    obtain ⟨merged, hmerged, h⟩ := exceptBind_ok.mp hmerge
    obtain ⟨-, h⟩ := exceptThen_ok.mp h
    cases h
    exact .inr hmerged

/-- In every run of checkpoints the stored angles are sound. The next one that is accepted keeps
them all and leaves sound angles, and one that is refused leaves them as they are. -/
theorem stored_angles_sound (toLowerCase : JsString → JsString) (checkpoints : List AngleCheckpoint)
    (checkpoint : AngleCheckpoint) :
    let stored := runSteps (recordAngles toLowerCase) [] checkpoints
    AnglesSound toLowerCase stored ∧
      match mergeAngles toLowerCase checkpoint.assertEvidenceRef stored checkpoint.angles with
      | .ok merged => AnglesSound toLowerCase merged ∧
        AnglesKept toLowerCase (checkpoint.angles.getD []) stored merged
      | .error _ => recordAngles toLowerCase stored checkpoint = stored := by
  intro stored
  have hstore : AnglesSound toLowerCase stored := by
    refine runSteps_invariant (fun angles c h => ?_)
      ⟨List.nodup_nil, List.nodup_nil, Nat.zero_le _⟩ checkpoints
    rcases recordAngles_cases toLowerCase angles c with hsame | hmerged
    · rw [hsame]
      exact h
    · exact (mergeAngles_kept h hmerged).1
  refine ⟨hstore, ?_⟩
  cases hmerge : mergeAngles toLowerCase checkpoint.assertEvidenceRef stored checkpoint.angles with
  | ok merged => exact mergeAngles_kept hstore hmerge
  | error message =>
    rcases recordAngles_cases toLowerCase stored checkpoint with hsame | hmerged
    · exact hsame
    · cases hmerge.symm.trans hmerged

end Beale.Track
