import Mathlib.Data.List.Nodup
import GrowthEstimate.Catalogue.Entry
import GrowthEstimate.Proofs.Growth.Order
import GrowthEstimate.Proofs.Text.Lines
import GrowthEstimate.Proofs.Text.Pattern

/-!
Contract: what a match of the catalogue can be relied on for, and when there is none.

Owns: splits around a class, well-formed entries, that the entries of the catalogue are such and
have names of their own, and what follows for every match; the signs and the counts without which no
entry matches, and that a source without code shows none of them.

Does **not** own: which evidence a source with statements gives.
-/

set_option autoImplicit false

namespace GrowthEstimate

/-! ## Entries

The facts about the table are decided once, in `entries_wellFormed` and
`entries_names`.  An entry that breaks one of them is caught there, and what rests on
the two needs no look at the table. -/

/-! ### Splits around a class -/

/-- The class is that of the average case, and lies between those of the other two. -/
structure CaseSplit.Around (time : GrowthClass) (split : CaseSplit) : Prop where
  best : split.best ≤ time
  average : split.average = time
  worst : time ≤ split.worst

theorem CaseSplit.uniform_around (time : GrowthClass) : (uniform time).Around time :=
  ⟨le_refl time, rfl, le_refl time⟩

/-! ### Entries -/

/-- Whether the rule gives a known class, whatever the evidence is. -/
def TimeRule.isKnown : TimeRule → Bool
  | fixed growth => growth.isKnown
  | perLoopLevel => true

theorem TimeRule.isKnown_growth {rule : TimeRule} (known : rule.isKnown = true)
    (evidence : Evidence) : (rule.growth evidence).isKnown = true := by
  cases rule with
  | fixed growth => exact known
  | perLoopLevel =>
      simp only [growth]
      split <;> rfl

namespace CatalogueEntry

/-- The class of the entry is known, and if its cases differ, it is a fixed one with the
cases around it. -/
def WellFormed (entry : CatalogueEntry) : Prop :=
  entry.time.isKnown = true ∧ ∀ split ∈ entry.cases, entry.time = .fixed split.average
    ∧ split.best ≤ split.average ∧ split.average ≤ split.worst

instance (entry : CatalogueEntry) : Decidable entry.WellFormed :=
  inferInstanceAs (Decidable (_ ∧ _))

theorem WellFormed.around {entry : CatalogueEntry} (wellFormed : entry.WellFormed)
    {split : CaseSplit} (recorded : entry.cases = some split) (evidence : Evidence) :
    split.Around (entry.time.growth evidence) := by
  obtain ⟨fixedTime, best, worst⟩ := wellFormed.2 split recorded
  rw [fixedTime]
  exact ⟨best, rfl, worst⟩

end CatalogueEntry

namespace Catalogue

theorem entries_wellFormed : ∀ entry ∈ entries, entry.WellFormed := by
  decide

theorem entries_names : (entries.map CatalogueEntry.name).Nodup := by
  decide

/-- The split recorded under the name of an entry is the entry's own. -/
theorem casesOf?_name {entry : CatalogueEntry} (member : entry ∈ entries) :
    casesOf? entry.name = entry.cases := by
  cases looked : entries.find? (fun other => other.name == entry.name) with
  | none =>
      have missing := List.find?_eq_none.mp looked entry member
      simp at missing
  | some found =>
      have sameName : found.name = entry.name := by simpa using List.find?_some looked
      have foundMember : found ∈ entries := List.mem_of_find?_eq_some looked
      have same : found = entry :=
        List.inj_on_of_nodup_map entries_names foundMember member sameName
      rw [casesOf?, looked, same, Option.bind_some]

end Catalogue

/-! ### Matches -/

namespace AlgorithmMatch

variable {α : Type}

/-- The class of the match is known, and the split recorded under its name, if there is
one, is around its class. -/
structure Listed (found : AlgorithmMatch α) : Prop where
  known : found.time.isKnown = true
  cases : ∀ split, Catalogue.casesOf? found.name = some split → split.Around found.time

variable [Scalar α]

theorem strongest?_mem {found : List (AlgorithmMatch α)} {best : AlgorithmMatch α}
    (isBest : strongest? found = some best) : best ∈ found := by
  cases found with
  | nil => contradiction
  | cons first rest =>
      rw [← Option.some.inj isBest, List.mem_cons]
      apply foldl_mem_of_choosing
      intro incumbent challenger
      split
      · exact Or.inr rfl
      · exact Or.inl rfl

end AlgorithmMatch

namespace Catalogue

variable {α : Type} [Scalar α]

/-- Whatever the evidence is, the catalogue gives only matches that it lists. -/
theorem matchesOf_listed (evidence : Evidence) :
    ∀ found ∈ (matchesOf evidence : List (AlgorithmMatch α)), found.Listed := by
  intro found member
  obtain ⟨entry, entryMember, isMatch⟩ := List.mem_filterMap.mp member
  have wellFormed := entries_wellFormed entry entryMember
  unfold CatalogueEntry.match? at isMatch
  split at isMatch
  · rw [← Option.some.inj isMatch]
    refine ⟨TimeRule.isKnown_growth wellFormed.1 evidence, ?_⟩
    intro split recorded
    rw [casesOf?_name entryMember] at recorded
    exact wellFormed.around recorded evidence
  · contradiction

end Catalogue

/-! ## Absence

Every entry asks for something that a tree without nodes does not give, or for one of four
signs.  The table is looked at once for that, in `entries_needSomething`. -/

open Text

/-! ### Evidence that is missing -/

namespace Evidence

variable {α : Type}

theorem shows_eq_false {source : NormalizedSource} {root : SyntaxNode α} {sign : Sign}
    (notShown : (View.of source root).shows sign = false) :
    (ofSource source root).shows sign = false := by
  rw [shows, ← Bool.not_eq_true, List.contains_iff_mem]
  intro isSign
  have shown : (View.of source root).shows sign = true := (List.mem_filter.mp isSign).2
  rw [notShown] at shown
  contradiction

/-- A root without children has no loops and calls nothing. -/
theorem ofSource_of_childless (source : NormalizedSource) {root : SyntaxNode α}
    (isProgram : root.kind = .program) (childless : root.children = []) :
    (ofSource source root).loopDepth = 0 ∧ (ofSource source root).maxRecursiveCalls = 0 := by
  obtain ⟨kind, name, estimate, lines, facts, children⟩ := root
  obtain rfl : kind = .program := isProgram
  obtain rfl : children = [] := childless
  exact ⟨rfl, rfl⟩

end Evidence

/-! ### Entries that do not match -/

namespace Catalogue

/-- The signs of which an entry asks for one, if it asks for no loop and no call. -/
def decisiveSigns : List Sign :=
  [.heapify, .boundsIdentifiers, .visited, .distances]

/-- What evidence without nodes and without a decisive sign does not meet. -/
def unmetCriteria : List Criterion :=
  [.multipleCalls, .someCall, .nestedLoops, .singleLoop, .loopOrCall, .heapify,
    .boundsIdentifiers, .visited, .distances]

theorem entries_needSomething :
    ∀ entry ∈ entries, ∃ criterion ∈ entry.criteria, criterion ∈ unmetCriteria := by
  decide

theorem holds_eq_false {evidence : Evidence} (noLoops : evidence.loopDepth = 0)
    (noCalls : evidence.maxRecursiveCalls = 0)
    (noSigns : ∀ sign ∈ decisiveSigns, evidence.shows sign = false) :
    ∀ criterion ∈ unmetCriteria, criterion.holds evidence = false := by
  simp only [decisiveSigns, List.forall_mem_cons] at noSigns
  obtain ⟨noHeapify, noBounds, noVisited, noDistances, _⟩ := noSigns
  simp only [unmetCriteria, List.forall_mem_cons, Criterion.holds, noLoops, noCalls]
  exact ⟨rfl, rfl, rfl, rfl, rfl, noHeapify, noBounds, noVisited, noDistances,
    List.forall_mem_nil _⟩

variable {α : Type} [Scalar α]

theorem matchesOf_eq_nil {evidence : Evidence} (noLoops : evidence.loopDepth = 0)
    (noCalls : evidence.maxRecursiveCalls = 0)
    (noSigns : ∀ sign ∈ decisiveSigns, evidence.shows sign = false) :
    (matchesOf evidence : List (AlgorithmMatch α)) = [] := by
  rw [matchesOf, List.filterMap_eq_nil_iff]
  intro entry isEntry
  obtain ⟨criterion, isCriterion, unmet⟩ := entries_needSomething entry isEntry
  have fails := holds_eq_false noLoops noCalls noSigns criterion unmet
  rw [CatalogueEntry.match?, if_neg]
  intro allHold
  rw [List.all_eq_true.mp allHold criterion isCriterion] at fails
  contradiction

/-- Nothing is recognised in a source without nodes that shows no decisive sign. -/
theorem detect_eq_nil {source : NormalizedSource} {root : SyntaxNode α}
    (isProgram : root.kind = .program) (childless : root.children = [])
    (noSigns : ∀ sign ∈ decisiveSigns, (Evidence.View.of source root).shows sign = false) :
    (detect source root : List (AlgorithmMatch α)) = [] := by
  obtain ⟨noLoops, noCalls⟩ := Evidence.ofSource_of_childless source isProgram childless
  exact matchesOf_eq_nil noLoops noCalls fun sign isDecisive =>
    Evidence.shows_eq_false (noSigns sign isDecisive)

end Catalogue

/-! ### Sources without code -/

/-- A text without characters of names has no identifiers. -/
theorem NormalizedSource.identifiersIn_eq_nil {text : List Char}
    (noNames : ∀ char ∈ text, isAsciiNameChar char = false) : identifiersIn text = [] := by
  rw [identifiersIn, List.filter_eq_nil_iff]
  intro word isWord
  cases word with
  | nil => exact Bool.false_ne_true
  | cons first rest =>
      obtain ⟨isIn, notSeparator⟩ := mem_of_mem_splitWhere isWord List.mem_cons_self
      rw [noNames first isIn] at notSeparator
      contradiction

namespace Catalogue

variable {α : Type} [Scalar α]

omit [Scalar α] in
/-- The code of a source without code is line feeds. -/
theorem view_text_of_blank {source : NormalizedSource} (blank : source.isBlank = true)
    (root : SyntaxNode α) : ∀ char ∈ (Evidence.View.of source root).text, char = '\n' := by
  intro char member
  rcases mem_joinLines member with isFeed | ⟨part, isPart, isIn⟩
  · exact isFeed
  · obtain ⟨line, isLine, rfl⟩ := List.mem_map.mp isPart
    have noCode : line.code = [] := List.isEmpty_iff.mp (List.all_eq_true.mp blank line isLine)
    rw [CodeLine.lowered, noCode] at isIn
    contradiction

/-- Nothing is recognised in a source without code. -/
theorem detect_of_blank {source : NormalizedSource} (blank : source.isBlank = true)
    {root : SyntaxNode α} (isProgram : root.kind = .program) (childless : root.children = []) :
    (detect source root : List (AlgorithmMatch α)) = [] := by
  have onlyFeeds := view_text_of_blank blank root
  have noIdentifiers : (Evidence.View.of source root).identifiers = [] := by
    apply NormalizedSource.identifiersIn_eq_nil
    intro char member
    rw [onlyFeeds char member]
    rfl
  have noParenthesis : '(' ∉ (Evidence.View.of source root).text := by
    intro member
    exact absurd (onlyFeeds _ member) (by decide)
  apply detect_eq_nil isProgram childless
  simp only [decisiveSigns, List.forall_mem_cons]
  refine ⟨Pattern.occursIn_eq_false_of_needs (by decide) noParenthesis, ?_, ?_, ?_,
    List.forall_mem_nil _⟩
  all_goals
    simp [Evidence.View.shows, Evidence.View.has, Evidence.View.hasAny, noIdentifiers]

end Catalogue

end GrowthEstimate
