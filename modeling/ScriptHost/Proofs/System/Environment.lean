/-
The environment that a guest sees. It is listed in the order of the bytes of the keys, and of the values where keys are the
same; as no two different entries are level in this order (`Precedes.antisymm`), a list of entries can be sorted in one way
only. What a guest finds in its memory therefore does not tell in which order a host came by the entries. A configuration
has one value for each key, so there each key is listed once.

- `ProcessInfo.sort_eq_of_perm`: entries that are listed in different orders are sorted into the same one.
- `Config.pairwise_keys`: the keys of a configuration come out in strictly increasing order.
- `ProcessList.gives`: what was written is the strings that a process has, wherever it was written to.
- `environment_sorted`: the environment and the arguments, as guests find them.
-/
import ScriptHost.Config
import ScriptHost.Proofs.System.ProcessLists
import Std.Data.ExtTreeMap.Lemmas

namespace ScriptHost

open Wire

theorem Text.utf8_inj {s t : String} : utf8 s = utf8 t ↔ s = t := by
  constructor
  · intro h
    rw [← String.toByteArray_inj]
    have hbytes : (utf8 s).toByteArray = (utf8 t).toByteArray := congrArg _ h
    rwa [toByteArray_utf8, toByteArray_utf8] at hbytes
  · exact congrArg utf8

/-! ## The order of entries -/

/-- an entry is listed before another one, or is level with it: first the bytes of the keys count, and then those of the
values -/
def Precedes (a b : String × String) : Prop :=
  Text.utf8 a.1 < Text.utf8 b.1 ∨ Text.utf8 a.1 = Text.utf8 b.1 ∧ Text.utf8 a.2 ≤ Text.utf8 b.2

namespace Precedes

variable {a b c : String × String}

theorem trans (hab : Precedes a b) (hbc : Precedes b c) : Precedes a c := by
  rcases hab with hab | ⟨hkey, hvalue⟩
  · rcases hbc with hbc | ⟨hkey', -⟩
    · exact .inl (List.lt_trans hab hbc)
    · exact .inl (hkey' ▸ hab)
  · rcases hbc with hbc | ⟨hkey', hvalue'⟩
    · exact .inl (hkey ▸ hbc)
    · exact .inr ⟨hkey.trans hkey', List.le_trans hvalue hvalue'⟩

theorem total (a b : String × String) : Precedes a b ∨ Precedes b a := by
  rcases List.le_total (Text.utf8 a.1) (Text.utf8 b.1) with hle | hle
  all_goals rcases List.le_iff_lt_or_eq.1 hle with hlt | heq
  · exact .inl (.inl hlt)
  · exact (List.le_total (Text.utf8 a.2) (Text.utf8 b.2)).imp (fun h => .inr ⟨heq, h⟩) fun h => .inr ⟨heq.symm, h⟩
  · exact .inr (.inl hlt)
  · exact (List.le_total (Text.utf8 a.2) (Text.utf8 b.2)).imp (fun h => .inr ⟨heq.symm, h⟩) fun h => .inr ⟨heq, h⟩

/-- entries that are level are the same -/
theorem antisymm (hab : Precedes a b) (hba : Precedes b a) : a = b := by
  rcases hab with hlt | ⟨hkey, hvalue⟩
  · rcases hba with hlt' | ⟨hkey', -⟩
    · exact absurd hlt' (List.lt_asymm hlt)
    · exact absurd (hkey' ▸ hlt) (List.lt_irrefl _)
  · rcases hba with hlt' | ⟨-, hvalue'⟩
    · exact absurd (hkey ▸ hlt') (List.lt_irrefl _)
    · exact Prod.ext (Text.utf8_inj.1 hkey) (Text.utf8_inj.1 (List.le_antisymm hvalue hvalue'))

end Precedes

namespace ProcessInfo

theorem entryLe_iff {a b : String × String} : entryLe a b ↔ Precedes a b := by
  unfold entryLe Precedes
  by_cases hkey : Text.utf8 a.1 = Text.utf8 b.1
  · simp [hkey, List.lt_irrefl]
  · simp [hkey]

/-- the entries of an environment, in the order in which they are listed -/
theorem pairwise_sort (pairs : List (String × String)) : (pairs.mergeSort entryLe).Pairwise Precedes := by
  have htrans : ∀ a b c, entryLe a b → entryLe b c → entryLe a c := by
    intro a b c
    simp only [entryLe_iff]
    exact Precedes.trans
  have htotal : ∀ a b, entryLe a b || entryLe b a := by
    intro a b
    simp only [Bool.or_eq_true, entryLe_iff]
    exact Precedes.total a b
  exact (List.pairwise_mergeSort htrans htotal pairs).imp entryLe_iff.1

/-- in whatever order entries come, they are listed in the same one -/
theorem sort_eq_of_perm {pairs pairs' : List (String × String)} (h : pairs.Perm pairs') :
    pairs.mergeSort entryLe = pairs'.mergeSort entryLe := by
  have hperm : (pairs.mergeSort entryLe).Perm (pairs'.mergeSort entryLe) :=
    (List.mergeSort_perm pairs entryLe).trans (h.trans (List.mergeSort_perm pairs' entryLe).symm)
  exact hperm.eq_of_pairwise (fun _ _ _ _ => Precedes.antisymm) (pairwise_sort pairs) (pairwise_sort pairs')

end ProcessInfo

/-! ## Configured entries -/

namespace Config

open ProcessInfo (entryLe)

variable (c : Config)

/-- the entries of a configuration, in the order in which they are listed -/
def entries : List (String × String) := c.env.toList.mergeSort entryLe

/-- what is listed is what is configured -/
theorem mem_entries {key value : String} : (key, value) ∈ c.entries ↔ c.env[key]? = some value := by
  rw [entries, List.mem_mergeSort]
  exact Std.ExtTreeMap.mem_toList_iff_getElem?_eq_some

/-- a configuration has one value for each key -/
theorem pairwise_ne_entries : c.entries.Pairwise fun a b => a.1 ≠ b.1 := by
  have hdistinct : c.env.toList.Pairwise fun a b => a.1 ≠ b.1 := by
    refine Std.ExtTreeMap.distinct_keys_toList.imp ?_
    intro a b hcompare hkey
    exact hcompare (Std.compare_eq_iff_eq.2 hkey)
  exact ((List.mergeSort_perm c.env.toList entryLe).symm.pairwise_iff Ne.symm).1 hdistinct

theorem pairwise_keys : (c.entries.map fun entry => Text.utf8 entry.1).Pairwise (· < ·) := by
  rw [List.pairwise_map]
  refine ((ProcessInfo.pairwise_sort c.env.toList).and c.pairwise_ne_entries).imp ?_
  rintro a b ⟨hlt | ⟨hkey, -⟩, hne⟩
  · exact hlt
  · exact absurd (Text.utf8_inj.1 hkey) hne

end Config

/-! ## What a guest finds -/

namespace ProcessList

open StringList

section Given

variable {μ : Type} [LinearMemory μ] [ExactMemory μ]

/-- what comes of a call to have strings written -/
structure Given (m : μ) (strings : List String) (array buffer : Pointer) (o : SystemOutcome μ) : Prop where
  succeeds : LinearMemory.size m ≤ wordLimit → (o.errno = .success ↔
    array.toNat + 4 * strings.length ≤ LinearMemory.size m ∧ buffer.toNat + totalSize strings ≤ LinearMemory.size m)
  fails : o.errno ≠ .success → o.memory = m
  /-- the strings stand in the buffer, one behind another with a zero byte after each -/
  packed : o.errno = .success → Stands o.memory buffer.toNat (strings.flatMap fun text => Text.utf8 text ++ [0])
  /-- the pointers lead to them, if they were not written over -/
  laid : o.errno = .success → (⟨array, 4 * strings.length⟩ : Span).Apart ⟨buffer, totalSize strings⟩ →
    Laid o.memory strings strings.length (totalSize strings) array.toNat buffer.toNat

theorem given_write (m : μ) (strings : List String) (array buffer : Pointer) :
    Given m strings array buffer (answer (write m strings array buffer)) where
  succeeds hsize := (readsBack_write strings hsize array buffer).succeeds
  fails hfail := write_fst_of_error (answer_eq_success_iff.not.1 hfail)
  packed hok := by
    rw [← toList_packed]
    exact (stands_of_write (answer_eq_success_iff.1 hok)).1
  laid hok := (stands_of_write (answer_eq_success_iff.1 hok)).2

end Given

/-- a guest that has a list written gets these strings, whatever its memory holds and wherever it wants them -/
def Gives (process : ProcessInfo) (which : ProcessList) (strings : List String) : Prop :=
  ∀ {μ : Type} [LinearMemory μ] [ExactMemory μ] (reading : Reading) (m : μ) (array buffer : Pointer),
    Given m strings array buffer ((which.listCall array buffer).run process reading m)

theorem gives (process : ProcessInfo) (which : ProcessList) : which.Gives process (which.strings process) := by
  intro μ _ _ reading m array buffer
  rw [run_listCall]
  exact given_write m _ array buffer

/-- two processes with the same strings in a list cannot be told apart by it -/
theorem run_eq_of_strings {which : ProcessList} {process process' : ProcessInfo}
    (h : which.strings process = which.strings process') {μ : Type} [LinearMemory μ] (reading : Reading) (m : μ)
    (p q : Pointer) :
    (which.sizesCall p q).run process reading m = (which.sizesCall p q).run process' reading m ∧
      (which.listCall p q).run process reading m = (which.listCall p q).run process' reading m := by
  rw [run_sizesCall, run_sizesCall, run_listCall, run_listCall, h]
  exact ⟨rfl, rfl⟩

end ProcessList

/-- what a guest sees of entries that come in some order, each of them once or several times -/
structure ShowsSorted (args : List String) (pairs : List (String × String)) : Prop where
  /-- it is given just these entries, sorted -/
  sorted : ∃ entries : List (String × String), entries.Perm pairs ∧ entries.Pairwise Precedes ∧
    ProcessList.environ.Gives (.ofPairs args pairs) (entries.map fun entry => entry.1 ++ "=" ++ entry.2)
  /-- the order in which they came does not show -/
  hidden (args' : List String) (pairs' : List (String × String)) : pairs'.Perm pairs →
    ∀ {μ : Type} [LinearMemory μ] (reading : Reading) (m : μ) (p q : Pointer),
      (SystemCall.environSizes p q).run (.ofPairs args' pairs') reading m =
        (SystemCall.environSizes p q).run (.ofPairs args pairs) reading m ∧
      (SystemCall.environ p q).run (.ofPairs args' pairs') reading m =
        (SystemCall.environ p q).run (.ofPairs args pairs) reading m

/-- what a guest sees of a configuration -/
structure Config.Shown (c : Config) : Prop where
  /-- each key once, with its value, in strictly increasing order -/
  environ : ∃ entries : List (String × String), (entries.map fun entry => Text.utf8 entry.1).Pairwise (· < ·) ∧
    (∀ key value, (key, value) ∈ entries ↔ c.env[key]? = some value) ∧
    ProcessList.environ.Gives c.process (entries.map fun entry => entry.1 ++ "=" ++ entry.2)
  /-- the arguments as they are -/
  args : ProcessList.args.Gives c.process c.args

/-- **The environment is a sorted image of the configured one.** A guest is given just the entries that its host has for it,
by the bytes of their keys and then of their values, and it cannot tell in which order they came. Of a configuration it is
given each key once, and the arguments in their order. -/
theorem environment_sorted :
    (∀ (args : List String) (pairs : List (String × String)), ShowsSorted args pairs) ∧ ∀ c : Config, c.Shown := by
  refine ⟨?_, ?_⟩
  · intro args pairs
    exact {
      sorted := ⟨pairs.mergeSort ProcessInfo.entryLe, List.mergeSort_perm _ _, ProcessInfo.pairwise_sort pairs,
        ProcessList.gives (.ofPairs args pairs) .environ⟩
      hidden := by
        intro args' pairs' hperm μ _ reading m p q
        have hstrings : ProcessList.environ.strings (.ofPairs args' pairs') =
            ProcessList.environ.strings (.ofPairs args pairs) :=
          congrArg (List.map ProcessInfo.entryText) (ProcessInfo.sort_eq_of_perm hperm)
        exact ProcessList.run_eq_of_strings hstrings reading m p q }
  · intro c
    exact {
      environ := ⟨c.entries, c.pairwise_keys, fun _ _ => c.mem_entries, ProcessList.gives c.process .environ⟩
      args := ProcessList.gives c.process .args }

/-- of a key and a longer one the shorter comes first, though its text would come second -/
example : (ProcessInfo.ofPairs [] [("a!", "1"), ("a", "3"), ("a", "2")]).environ = ["a=2", "a=3", "a!=1"] := by
  cbv

end ScriptHost
