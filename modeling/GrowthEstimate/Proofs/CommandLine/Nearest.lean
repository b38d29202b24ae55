import GrowthEstimate.CommandLine.Run
import GrowthEstimate.Host.Memory
import GrowthEstimate.Number.Binary64
import Mathlib.Data.List.Basic

/-!
Contract: which of the configuration files above a directory counts.

Owns: the directories that are looked at, the configuration that the files in them give, when
it is the one that the nearest file decides, and that this is what the commands load.

Does **not** own: why a file is refused.

A file that is refused is passed over as if it were not there.  So the nearest file decides
unless it is refused and a file farther away has other settings than the standard ones.
-/

set_option autoImplicit false

namespace GrowthEstimate

/-! ## The directories -/

namespace Path

/-- The path that many steps above a path. -/
def above? : Nat → List Char → Option (List Char)
  | 0, path => some path
  | steps + 1, path => (parent? path).bind (above? steps)

/-- The ancestors of a path are the paths above it, in order, up to their number. -/
theorem ancestors_getElem? (count steps : Nat) (path : List Char) :
    (ancestors count path)[steps]? = if steps < count then above? steps path else none := by
  induction count generalizing steps path with
  | zero => simp [ancestors]
  | succ count inductionHypothesis =>
      cases steps with
      | zero => simp [ancestors, above?]
      | succ steps =>
          rw [ancestors, List.getElem?_cons_succ, above?]
          cases parent? path with
          | none => simp
          | some parent => simp [inductionHypothesis]

end Path

/-! ## The files -/

namespace Configuration

variable {α : Type} [Scalar α] {textAt : List Char → Option (List Char)}

theorem candidatePaths_getElem? (start : List Char) (steps : Nat) :
    (candidatePaths start)[steps]? =
      if steps < 10 then
        (Path.above? steps start).map (Path.inDirectory · configurationName)
      else none := by
  rw [candidatePaths, List.getElem?_map, Path.ancestors_getElem?, apply_ite (Option.map _)]
  rfl

/-- The configuration that the nearest file decides, and the standard one if that file is
refused. -/
def decidedByNearest (textAt : List Char → Option (List Char)) (start : List Char) :
    Configuration α :=
  (((candidatePaths start).findSome? textAt).bind fun text => usable? (some text)).getD standard

theorem firstUsable_of_usable {nearer farther : List (List Char)} {path : List Char}
    {configuration : Configuration α}
    (passedOver : ∀ other ∈ nearer, usable? (α := α) (textAt other) = none)
    (isUsable : usable? (textAt path) = some configuration) :
    firstUsable ((nearer ++ path :: farther).map textAt) = configuration := by
  have found : ((nearer ++ path :: farther).map textAt).findSome? usable? =
      some configuration := by
    rw [List.findSome?_map]
    exact List.findSome?_eq_some_iff.mpr ⟨nearer, path, farther, rfl, isUsable, passedOver⟩
  rw [firstUsable, found, Option.getD_some]

theorem firstUsable_of_none {paths : List (List Char)}
    (passedOver : ∀ path ∈ paths, usable? (α := α) (textAt path) = none) :
    firstUsable (α := α) (paths.map textAt) = standard := by
  have found : (paths.map textAt).findSome? (usable? (α := α)) = none := by
    rw [List.findSome?_map]
    exact List.findSome?_eq_none_iff.mpr passedOver
  rw [firstUsable, found, Option.getD_none]

/-- Files that give no configuration of their own do not matter to those farther away. -/
theorem firstUsable_behind {nearer farther : List (List Char)}
    (passedOver : ∀ path ∈ nearer, usable? (α := α) (textAt path) = none) :
    firstUsable (α := α) ((nearer ++ farther).map textAt) = firstUsable (farther.map textAt) := by
  have found : (nearer.map textAt).findSome? (usable? (α := α)) = none := by
    rw [List.findSome?_map]
    exact List.findSome?_eq_none_iff.mpr passedOver
  rw [firstUsable, List.map_append, List.findSome?_append, found, Option.none_or, firstUsable]

/-- What the nearest file decides is found unless that file is refused and those farther away
give settings other than the standard ones. -/
theorem ofDirectory_eq_decidedByNearest_iff (start : List Char) :
    (ofDirectory textAt start : Configuration α) = decidedByNearest textAt start ↔
      ∀ nearer path farther text, candidatePaths start = nearer ++ path :: farther →
        (∀ other ∈ nearer, textAt other = none) → textAt path = some text →
        usable? (α := α) (some text) = none →
        firstUsable (farther.map textAt) = (standard : Configuration α) := by
  have behind {nearer farther : List (List Char)} {path text : List Char}
      (missing : ∀ other ∈ nearer, textAt other = none) (isThere : textAt path = some text)
      (refused : usable? (α := α) (some text) = none)
      (split : candidatePaths start = nearer ++ path :: farther) :
      (ofDirectory textAt start : Configuration α) = firstUsable (farther.map textAt) := by
    rw [ofDirectory, split, List.append_cons]
    apply firstUsable_behind
    intro other isNearer
    rcases List.mem_append.mp isNearer with isNearer | isPath
    · rw [missing other isNearer]
      rfl
    · rw [List.mem_singleton.mp isPath, isThere, refused]
  unfold decidedByNearest
  cases nearest : (candidatePaths start).findSome? textAt with
  | none =>
      have missing := List.findSome?_eq_none_iff.mp nearest
      refine iff_of_true (firstUsable_of_none fun path isPath => ?_) ?_
      · rw [missing path isPath]
        rfl
      · intro nearer path farther text split _ isThere
        rw [missing path (split ▸ List.mem_append_right nearer List.mem_cons_self)] at isThere
        contradiction
  | some text =>
      obtain ⟨nearer, path, farther, split, isThere, missing⟩ :=
        List.findSome?_eq_some_iff.mp nearest
      rw [Option.bind_some]
      cases isUsable : usable? (α := α) (some text) with
      | some configuration =>
          refine iff_of_true ?_ ?_
          · rw [ofDirectory, split]
            refine firstUsable_of_usable (fun other isNearer => ?_) (isThere ▸ isUsable)
            rw [missing other isNearer]
            rfl
          · intro nearer' path' farther' text' split' missing' isThere' refused
            have sameText := List.findSome?_eq_some_iff.mpr
              ⟨nearer', path', farther', split', isThere', missing'⟩
            rw [Option.some.inj (nearest.symm.trans sameText), refused] at isUsable
            contradiction
      | none =>
          rw [Option.getD_none]
          constructor
          · intro isStandard nearer' path' farther' text' split' missing' isThere' refused
            rw [← behind missing' isThere' refused split']
            exact isStandard
          · intro others
            rw [behind missing isThere isUsable split]
            exact others nearer path farther text split missing isThere isUsable

end Configuration

/-! ## Loading -/

namespace MemoryHost

/-- The text of a file, if there is one that can be read. -/
def fileAt (host : MemoryHost) (path : List Char) : Option (List Char) :=
  (host.textOf path).toOption.map String.toList

end MemoryHost

/-- The commands load what the files of a system give for its directory, and leave the system
as it is. -/
theorem Command.loadConfiguration_run {α : Type} [Scalar α] (host : MemoryHost) :
    (loadConfiguration α MemoryHost.operations).run host =
      (Configuration.ofDirectory host.fileAt (MemoryHost.pathOf host.current), host) := by
  have texts (paths : List (List Char)) :
      StateT.run (paths.mapM fun path => do
        return (← MemoryHost.operations.readFile path).toOption.map String.toList) host =
      pure (paths.map host.fileAt, host) := by
    induction paths with
    | nil => rfl
    | cons path rest inductionHypothesis =>
        rw [List.mapM_cons, StateT.run_bind]
        change (StateT.run (do
          let later ← rest.mapM _
          pure (host.fileAt path :: later)) host) = _
        rw [StateT.run_bind, inductionHypothesis]
        rfl
  rw [loadConfiguration, StateT.run_bind]
  change StateT.run (do
    let found ← (Configuration.candidatePaths (MemoryHost.pathOf host.current)).mapM _
    pure (Configuration.firstUsable found)) host = _
  rw [StateT.run_bind, texts]
  rfl

namespace Configuration

/-- The files of a directory and of the nine nearest above it are looked at, and the nearest one
that is not refused gives the configuration, which is the standard one if there is none.  So the
nearest file decides unless it is refused and those farther away give other settings.  The
commands load just this configuration. -/
theorem ofDirectory_decidedByNearest_iff {α : Type} [Scalar α]
    (textAt : List Char → Option (List Char)) (start : List Char) :
    (∀ steps, (candidatePaths start)[steps]? =
      if steps < 10 then
        (Path.above? steps start).map (Path.inDirectory · configurationName)
      else none) ∧
    (∀ nearer path farther (configuration : Configuration α),
      candidatePaths start = nearer ++ path :: farther →
      (∀ other ∈ nearer, usable? (α := α) (textAt other) = none) →
      usable? (textAt path) = some configuration → ofDirectory textAt start = configuration) ∧
    ((∀ path ∈ candidatePaths start, usable? (α := α) (textAt path) = none) →
      ofDirectory textAt start = (standard : Configuration α)) ∧
    ((ofDirectory textAt start : Configuration α) = decidedByNearest textAt start ↔
      ∀ nearer path farther text, candidatePaths start = nearer ++ path :: farther →
        (∀ other ∈ nearer, textAt other = none) → textAt path = some text →
        usable? (α := α) (some text) = none →
        firstUsable (farther.map textAt) = (standard : Configuration α)) ∧
    (∀ host : MemoryHost, (Command.loadConfiguration α MemoryHost.operations).run host =
      (ofDirectory host.fileAt (MemoryHost.pathOf host.current), host)) := by
  refine ⟨candidatePaths_getElem? start, ?_, firstUsable_of_none,
    ofDirectory_eq_decidedByNearest_iff start, Command.loadConfiguration_run⟩
  intro nearer path farther configuration split passedOver isUsable
  rw [ofDirectory, split]
  exact firstUsable_of_usable passedOver isUsable

/-- A directory without a file, below one whose file is refused, below one whose file asks for
no cases. -/
theorem ofDirectory_decidedByNearest_iff_twoAbove :
    let nearer := ["/a/b/.growthmap.toml".toList, "/a/.growthmap.toml".toList]
    let path := "/.growthmap.toml".toList
    let textAt (other : List Char) : Option (List Char) :=
      [("/a/.growthmap.toml".toList, "[analysis]\nsample_sizes = [2, 1]\n".toList),
        (path, "[analysis]\ninclude_case_analysis = false\n".toList)].lookup other
    ∃ configuration : Configuration Float,
      candidatePaths "/a/b".toList = nearer ++ path :: [] ∧
      (∀ other ∈ nearer, usable? (α := Float) (textAt other) = none) ∧
      usable? (textAt path) = some configuration ∧
      ofDirectory textAt "/a/b".toList = configuration := by
  intro nearer path textAt
  have split : candidatePaths "/a/b".toList = nearer ++ path :: [] := by decide +kernel
  have passedOver : ∀ other ∈ nearer, usable? (α := Float) (textAt other) = none := by
    simp only [← Option.isNone_iff_eq_none]
    decide +kernel
  obtain ⟨configuration, isUsable⟩ :=
    Option.isSome_iff_exists.mp (by decide +kernel : (usable? (α := Float) (textAt path)).isSome)
  exact ⟨configuration, split, passedOver, isUsable,
    (ofDirectory_decidedByNearest_iff textAt "/a/b".toList).2.1 nearer path [] configuration split
      passedOver isUsable⟩

/-- The file of a directory is refused, and the settings of the file above it are loaded in
place of the standard ones. -/
theorem loadConfiguration_not_decidedByNearest :
    let above := MemoryHost.empty.withFile [configurationName]
      (some "[analysis]\ninclude_case_analysis = false\n")
    let host := { above.withFile [['a'], configurationName]
      (some "[analysis]\nsample_sizes = [2, 1]\n") with current := [['a']] }
    ((Command.loadConfiguration Float MemoryHost.operations).run host).1 ≠
      decidedByNearest host.fileAt (MemoryHost.pathOf host.current) := by
  intro above host same
  rw [Command.loadConfiguration_run] at same
  have cases := congrArg (fun found => found.options.includeCases) same
  exact absurd cases (by decide +kernel)

end Configuration

end GrowthEstimate
