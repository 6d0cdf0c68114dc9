import ContainerLaunch.Proofs.Script.RoundTrip
import Mathlib.Data.List.Nodup
/-!
# What a launch script depends on

A script is made of the variables that are exported, of the links and of the command, and of nothing else:
neither the order in which variables and resources are given nor a variable that is excluded leaves a trace
in it (`build_eq_of_agree`). Sorting by distinct names gives a list one order only, and it makes no difference
whether what is excluded is left out before or after.
-/

namespace ContainerLaunch.Script

variable {α : Type}

/-- No name has two entries. -/
def Distinct (ms : List (String × α)) : Prop := (ms.map Prod.fst).Nodup

namespace Distinct
variable {ms ms' : List (String × α)}

theorem nodup (h : Distinct ms) : ms.Nodup := List.Nodup.of_map Prod.fst h

theorem filter (h : Distinct ms) (p : String × α → Bool) : Distinct (ms.filter p) :=
  h.sublist (List.filter_sublist.map Prod.fst)

theorem perm_of_mem_iff (h : Distinct ms) (h' : Distinct ms') (hmem : ∀ m, m ∈ ms ↔ m ∈ ms') :
    ms.Perm ms' :=
  (List.perm_ext_iff_of_nodup h.nodup h'.nodup).2 hmem

/-- Entries with distinct names have only one ascending order. -/
theorem eq_of_perm (h : Distinct ms) (hp : ms.Perm ms') (hs : ms.Pairwise fun a b => a.1 ≤ b.1)
    (hs' : ms'.Pairwise fun a b => a.1 ≤ b.1) : ms = ms' := by
  refine hp.eq_of_pairwise ?_ hs hs'
  intro a b ha hb hab hba
  have hname : a.1 = b.1 := String.le_antisymm hab hba
  exact List.inj_on_of_nodup_map h ha (hp.mem_iff.2 hb) hname

theorem inOrder_congr (h : Distinct ms) (hp : ms.Perm ms') : inOrder ms = inOrder ms' := by
  have hp' : (inOrder ms).Perm (inOrder ms') :=
    ((inOrder_perm ms).trans hp).trans (inOrder_perm ms').symm
  have hd : Distinct (inOrder ms) := ((inOrder_perm ms).map Prod.fst).nodup_iff.2 h
  exact hd.eq_of_perm hp' (pairwise_inOrder ms) (pairwise_inOrder ms')

theorem filter_inOrder (h : Distinct ms) (p : String × α → Bool) :
    (inOrder ms).filter p = inOrder (ms.filter p) := by
  have hp : ((inOrder ms).filter p).Perm (inOrder (ms.filter p)) :=
    ((inOrder_perm ms).filter p).trans (inOrder_perm _).symm
  have hd : Distinct (inOrder ms) := ((inOrder_perm ms).map Prod.fst).nodup_iff.2 h
  exact (hd.filter p).eq_of_perm hp ((pairwise_inOrder ms).filter p) (pairwise_inOrder _)

end Distinct

/-! ## Scripts are made -/

theorem exists_exportAll (s : Script) (vars : List (String × Json)) : ∃ s', exportAll s vars = (s', none) := by
  induction vars generalizing s with
  | nil => exact ⟨s, rfl⟩
  | cons m vars ih => exact ih _

theorem exists_linkAll (s : Script) (path : String) (links : List Json) :
    ∃ s', linkAll s path links = (s', none) := by
  induction links generalizing s with
  | nil => exact ⟨s, rfl⟩
  | cons link links ih =>
    rw [linkAll]
    exact ih (s.symlink (.str path) (.str link.text)).1

theorem exists_linkResources (s : Script) (resources : List (String × List Json)) :
    ∃ s', linkResources s (members resources) = (s', none) := by
  induction resources generalizing s with
  | nil => exact ⟨s, rfl⟩
  | cons m resources ih =>
    obtain ⟨s', hs'⟩ := exists_linkAll s m.1 m.2
    show ∃ s'', andThen (linkAll s m.1 m.2) (fun s => linkResources s (members resources)) = (s'', none)
    rw [hs']
    exact ih s'

/-- Lists of links and a command made of words always make a script, whatever the variables are. -/
theorem exists_build (environment : List (String × Json)) (resources : List (String × List Json))
    (words excluded : List String) :
    ∃ script, build environment (members resources) (.arr (words.map .str)) excluded = .ok script := by
  obtain ⟨s₁, hs₁⟩ := exists_exportAll empty ((sortMembers environment).filter fun m => !excluded.contains m.1)
  obtain ⟨s₂, hs₂⟩ := exists_linkResources s₁ (inOrder resources)
  simp only [build, hs₁, andThen, sortMembers_members, hs₂, command, commandText_str]
  exact ⟨_, rfl⟩

/-! ## Scripts that agree -/

section Build
variable {environment environment' resources resources' : List (String × Json)} {excluded : List String}

/-- The environments agree outside of the exclusions; what they say of excluded names does not matter. -/
def AgreeOutside (excluded : List String) (environment environment' : List (String × Json)) : Prop :=
  ∀ name ∉ excluded, ∀ value, (name, value) ∈ environment ↔ (name, value) ∈ environment'

theorem AgreeOutside.perm_filter (h : AgreeOutside excluded environment environment')
    (hd : Distinct environment) (hd' : Distinct environment') :
    (environment.filter fun m => !excluded.contains m.1).Perm
      (environment'.filter fun m => !excluded.contains m.1) := by
  refine (hd.filter _).perm_of_mem_iff (hd'.filter _) ?_
  rintro ⟨name, value⟩
  rw [List.mem_filter, List.mem_filter]
  by_cases hname : name ∈ excluded
  · simp [hname]
  · simp [hname, h name hname value]

/-- Two environments that agree outside of the exclusions and two equal sets of resources, in whatever order
they are given, make the same script, or fail in the same way. With lists of links and a command made of
words they make one. -/
theorem build_eq_of_agree (argv : Json) (he : Distinct environment) (he' : Distinct environment')
    (hr : Distinct resources) (hr' : Distinct resources')
    (henv : AgreeOutside excluded environment environment')
    (hres : ∀ m, m ∈ resources ↔ m ∈ resources') :
    build environment resources argv excluded = build environment' resources' argv excluded ∧
      ∀ links (words : List String), resources = members links → argv = .arr (words.map .str) →
        ∃ script, build environment resources argv excluded = .ok script ∧
          build environment' resources' argv excluded = .ok script := by
  have hexported : (sortMembers environment).filter (fun m => !excluded.contains m.1) =
      (sortMembers environment').filter fun m => !excluded.contains m.1 := by
    show (inOrder environment).filter _ = (inOrder environment').filter _
    rw [he.filter_inOrder, he'.filter_inOrder]
    exact (he.filter _).inOrder_congr (henv.perm_filter he he')
  have hlinked : sortMembers resources = sortMembers resources' :=
    hr.inOrder_congr (hr.perm_of_mem_iff hr' hres)
  have hbuild : build environment resources argv excluded = build environment' resources' argv excluded := by
    rw [build, build, hexported, hlinked]
  refine ⟨hbuild, ?_⟩
  rintro links words rfl rfl
  obtain ⟨script, hscript⟩ := exists_build environment links words excluded
  exact ⟨script, hscript, hbuild ▸ hscript⟩

end Build

/-- The order is turned round, one excluded variable has another value and one is there only the second time. -/
theorem build_eq_of_agree_reordered :
    let environment := [("JAVA_HOME", .str "/jvm/8"), ("B", .str "2"), ("A", .str "1")]
    let environment' := [("A", .str "1"), ("HADOOP_CONF_DIR", .null), ("JAVA_HOME", .str "/jvm/9"), ("B", .str "2")]
    let resources := [("/y", .arr [.str "l"]), ("/x", .arr [.str "n", .str "m"])]
    let resources' := [("/x", .arr [.str "n", .str "m"]), ("/y", .arr [.str "l"])]
    Distinct environment ∧ Distinct environment' ∧ Distinct resources ∧ Distinct resources' ∧
      AgreeOutside hostVariables environment environment' ∧ (∀ m, m ∈ resources ↔ m ∈ resources') ∧
      ∃ script, build environment resources (.arr [.str "run"]) hostVariables = .ok script ∧
        build environment' resources' (.arr [.str "run"]) hostVariables = .ok script := by
  intro environment environment' resources resources'
  have he : Distinct environment := by simp [Distinct, environment]
  have he' : Distinct environment' := by simp [Distinct, environment']
  have hr : Distinct resources := by simp [Distinct, resources]
  have hr' : Distinct resources' := by simp [Distinct, resources']
  have henv : AgreeOutside hostVariables environment environment' := by
    intro name hname value
    have hjava : name ≠ "JAVA_HOME" := fun h => hname (by simp [hostVariables, h])
    have hconf : name ≠ "HADOOP_CONF_DIR" := fun h => hname (by simp [hostVariables, h])
    simp [environment, environment', hjava, hconf, or_comm]
  have hres : ∀ m, m ∈ resources ↔ m ∈ resources' := by simp [resources, resources', or_comm]
  obtain ⟨-, hmade⟩ := build_eq_of_agree (.arr [.str "run"]) he he' hr hr' henv hres
  exact ⟨he, he', hr, hr', henv, hres, hmade [("/y", [.str "l"]), ("/x", [.str "n", .str "m"])] ["run"] rfl rfl⟩

end ContainerLaunch.Script
