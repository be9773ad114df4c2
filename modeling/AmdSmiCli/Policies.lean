import AmdSmiCli.Interface
import Mathlib.Data.List.Sort

/-!
# The policy lists

`get_soc_pstates` and `get_xgmi_plpd_policies` collect the policies of every processor into a list of strings
`f"{policy_id}: {policy_description}"` (`policyString`), appending a string only when the list does not hold it yet
(`addPolicy`). A device whose query raises `AmdSmiLibraryException` is skipped, and a list left empty becomes
`["N/A"]`. The two helpers differ only in the query, and share one body (`getPolicyList`).

What the list is for is `FirstOccurrences all r`: `r` holds the strings of `all`, each exactly once, in the order of
their first occurrence in `all`. This pins `r` down (`FirstOccurrences.unique`).

- `addPolicy_firstOccurrences`: one pass of the inner loop keeps the invariant, `all` grown by the policy's string;
  hence so does the inner loop (`foldl_addPolicy_firstOccurrences`);
- `policyLoop_foldl`: when every query returns or raises `AmdSmiLibraryException`, the device loop is the inner loop
  over the policies of the devices that answered (`reportedPolicies`);
- `getPolicyList_law`: hence the law of both helpers (`PolicyLaw`, `policy_lists_first_occurrences`);
- `policy_list_raises`: any other exception, at the first device whose query raises one, leaves the helper.
-/

namespace AmdSmiCli

/-! ## The helpers -/

/-- `f"{policy['policy_id']}: {policy['policy_description']}"`. -/
def policyString (policy : Policy) : String :=
  toString policy.policyId ++ ": " ++ policy.policyDescription

/-- The body of `for policy in ...:`: `policy_string` goes last, unless the list holds it already. -/
def addPolicy (profileList : List String) (policy : Policy) : List String :=
  if policyString policy ∈ profileList then profileList else profileList ++ [policyString policy]

/-- `for dev in device_handles:`, `query` being the call under `try`: a device whose query raises
`AmdSmiLibraryException` is skipped, and any other exception propagates. -/
def policyLoop (query : Handle → Except PyExc (List Policy)) :
    List Handle → List String → Except PyExc (List String)
  | [], profileList => .ok profileList
  | dev :: rest, profileList =>
    match query dev with
    | .ok policies => policyLoop query rest (policies.foldl addPolicy profileList)
    | .error (.amdSmiLibraryException _) => policyLoop query rest profileList
    | .error e => .error e

/-- The body shared by the two helpers, on the policy query `query`. -/
def getPolicyList (lib : Lib) (query : Handle → Except PyExc (List Policy)) : Except PyExc (List String) := do
  let deviceHandles ← lib.amdsmiGetProcessorHandles
  let profileList ← policyLoop query deviceHandles []
  return if profileList.length = 0 then profileList ++ ["N/A"] else profileList

/-- `get_soc_pstates`. -/
def getSocPstates (lib : Lib) : Except PyExc (List String) := getPolicyList lib lib.amdsmiGetSocPstate

/-- `get_xgmi_plpd_policies`. -/
def getXgmiPlpdPolicies (lib : Lib) : Except PyExc (List String) := getPolicyList lib lib.amdsmiGetXgmiPlpd

/-! ## What the lists are for -/

/-- `r` holds the strings of `all`, each exactly once, in the order of their first occurrence in `all`. -/
structure FirstOccurrences (all r : List String) : Prop where
  nodup : r.Nodup
  mem_iff : ∀ s, s ∈ r ↔ s ∈ all
  ordered : r.Pairwise fun s t => all.indexOf s < all.indexOf t

section FirstOccurrences

variable {all r : List String}

theorem FirstOccurrences.nil : FirstOccurrences [] [] :=
  ⟨List.nodup_nil, fun _ => Iff.rfl, List.Pairwise.nil⟩

/-- The invariant determines the list: the strings of `all`, ordered by their first occurrence. -/
theorem FirstOccurrences.unique {r' : List String} (h : FirstOccurrences all r) (h' : FirstOccurrences all r') :
    r = r' := by
  have : IsAntisymm String fun s t => all.indexOf s < all.indexOf t :=
    ⟨fun _ _ hst hts => absurd (hst.trans hts) (lt_irrefl _)⟩
  exact List.eq_of_perm_of_sorted
    ((List.perm_ext_iff_of_nodup h.nodup h'.nodup).2 fun s => (h.mem_iff s).trans (h'.mem_iff s).symm)
    h.ordered h'.ordered

theorem FirstOccurrences.eq_nil_iff (h : FirstOccurrences all r) : r = [] ↔ all = [] := by
  simp only [List.eq_nil_iff_forall_not_mem, h.mem_iff]

/-- Strings after the end of `all` leave the first occurrences of the strings of `r` where they were. -/
theorem FirstOccurrences.ordered_append (h : FirstOccurrences all r) (l : List String) :
    r.Pairwise fun s t => (all ++ l).indexOf s < (all ++ l).indexOf t :=
  h.ordered.imp_of_mem fun hs ht hst => by
    rwa [List.indexOf_append_of_mem ((h.mem_iff _).1 hs), List.indexOf_append_of_mem ((h.mem_iff _).1 ht)]

/-- **The pass of the inner loop** keeps the invariant, with the policy's string after the end of `all`. -/
theorem addPolicy_firstOccurrences (h : FirstOccurrences all r) (policy : Policy) :
    FirstOccurrences (all ++ [policyString policy]) (addPolicy r policy) := by
  by_cases hp : policyString policy ∈ r
  · -- the list is kept, and the string occurs in `all` already
    have hall := (h.mem_iff _).1 hp
    rw [addPolicy, if_pos hp]
    refine ⟨h.nodup, fun s => ?_, h.ordered_append _⟩
    rw [h.mem_iff, List.mem_append, List.mem_singleton]
    exact ⟨Or.inl, fun hs => hs.elim id (· ▸ hall)⟩
  · -- the string goes last, where its first occurrence is the new end of `all`
    have hall : policyString policy ∉ all := fun hs => hp ((h.mem_iff _).2 hs)
    rw [addPolicy, if_neg hp]
    refine ⟨h.nodup.append (List.nodup_singleton _) (List.disjoint_singleton.2 hp),
      fun s => by simp only [List.mem_append, h.mem_iff], List.pairwise_append.2
        ⟨h.ordered_append _, List.pairwise_singleton _ _, fun s hs t ht => ?_⟩⟩
    rw [List.mem_singleton.1 ht, List.indexOf_append_of_mem ((h.mem_iff _).1 hs),
      List.indexOf_append_of_not_mem hall, List.indexOf_cons_self, Nat.add_zero]
    exact List.indexOf_lt_length.2 ((h.mem_iff _).1 hs)

/-- **The inner loop** keeps the invariant, with the policies' strings after the end of `all`. -/
theorem foldl_addPolicy_firstOccurrences (policies : List Policy) :
    ∀ {all r : List String}, FirstOccurrences all r →
      FirstOccurrences (all ++ policies.map policyString) (policies.foldl addPolicy r) := by
  induction policies with
  | nil => exact fun h => by simpa using h
  | cons policy policies ih => exact fun h => by simpa using ih (addPolicy_firstOccurrences h policy)

end FirstOccurrences

/-! ## The device loop -/

section Loop

variable {query : Handle → Except PyExc (List Policy)}

/-- The outcomes of a query that the loop body lets through: a policy list, or `AmdSmiLibraryException`. -/
def Absorbed (query : Handle → Except PyExc (List Policy)) (dev : Handle) : Prop :=
  (∃ policies, query dev = .ok policies) ∨ ∃ c, query dev = .error (.amdSmiLibraryException c)

/-- The policies of the devices whose query returned, device after device. -/
def reportedPolicies (query : Handle → Except PyExc (List Policy)) (hs : List Handle) : List Policy :=
  hs.flatMap fun dev => match query dev with
    | .ok policies => policies
    | .error _ => []

/-- **The device loop**: when every query returns or raises `AmdSmiLibraryException`, the loop is the inner loop
over the policies the devices report. -/
theorem policyLoop_foldl : ∀ {hs : List Handle}, (∀ h ∈ hs, Absorbed query h) →
    ∀ acc, policyLoop query hs acc = .ok ((reportedPolicies query hs).foldl addPolicy acc)
  | [], _, _ => rfl
  | dev :: rest, hq, acc => by
    have ih := policyLoop_foldl fun h hh => hq h (List.mem_cons_of_mem _ hh)
    rcases hq dev (List.mem_cons_self _ _) with ⟨policies, hd⟩ | ⟨c, hd⟩ <;>
      simp [policyLoop, reportedPolicies, hd, ih]

/-- A query raising anything but `AmdSmiLibraryException`, after queries the loop body let through, makes the loop
raise it. -/
theorem policyLoop_raises {dev : Handle} {e : PyExc} (hd : query dev = .error e)
    (hne : ∀ c, e ≠ .amdSmiLibraryException c) :
    ∀ {pre : List Handle}, (∀ h ∈ pre, Absorbed query h) →
      ∀ post acc, policyLoop query (pre ++ dev :: post) acc = .error e
  | [], _, post, acc => by
    cases e with
    | amdSmiLibraryException c => exact absurd rfl (hne c)
    | _ => simp [policyLoop, hd]
  | h :: pre, hq, post, acc => by
    have ih := policyLoop_raises hd hne fun h hh => hq h (List.mem_cons_of_mem _ hh)
    rcases hq h (List.mem_cons_self _ _) with ⟨policies, hh⟩ | ⟨c, hh⟩ <;> simp [policyLoop, hh, ih]

end Loop

/-! ## The law of the helpers -/

/-- **The law of a policy list** over the devices `hs` and the query `query`: when every query returns or raises
`AmdSmiLibraryException`, the helper returns `["N/A"]` if the devices report no policy, and otherwise the strings of
the reported policies, each exactly once, in order of first occurrence. -/
def PolicyLaw (hs : List Handle) (query : Handle → Except PyExc (List Policy))
    (result : Except PyExc (List String)) : Prop :=
  (∀ h ∈ hs, Absorbed query h) →
    ∃ r, result = .ok r ∧
      (reportedPolicies query hs = [] ∧ r = ["N/A"] ∨
        reportedPolicies query hs ≠ [] ∧ FirstOccurrences ((reportedPolicies query hs).map policyString) r)

theorem getPolicyList_law (lib : Lib) (query : Handle → Except PyExc (List Policy)) (hs : List Handle)
    (he : lib.amdsmiGetProcessorHandles = .ok hs) : PolicyLaw hs query (getPolicyList lib query) := by
  intro hq
  have hr := foldl_addPolicy_firstOccurrences (reportedPolicies query hs) FirstOccurrences.nil
  rw [List.nil_append] at hr
  refine ⟨_, by simp only [getPolicyList, he, policyLoop_foldl hq, bind, Except.bind, pure, Except.pure]; rfl, ?_⟩
  by_cases hnil : reportedPolicies query hs = []
  · exact .inl ⟨hnil, by simp [hnil]⟩
  · have hne : (reportedPolicies query hs).foldl addPolicy [] ≠ [] := by
      simpa [hr.eq_nil_iff] using hnil
    exact .inr ⟨hnil, by simpa [List.length_eq_zero, hne] using hr⟩

/-- Three devices, the second failing: the policy `1` reported twice appears once, in its first place. -/
example : getSocPstates { Lib.idle with
    amdsmiGetProcessorHandles := .ok [⟨0⟩, ⟨1⟩, ⟨2⟩]
    amdsmiGetSocPstate := fun h => if h = ⟨1⟩ then .error (.amdSmiLibraryException .notInit)
      else .ok [⟨1, "balanced"⟩, ⟨h.value, "custom"⟩] } = .ok ["1: balanced", "0: custom", "2: custom"] := by
  decide

/-- **The policy lists**: `get_soc_pstates` and `get_xgmi_plpd_policies` follow the law of a policy list, over the
SoC p-states and the XGMI per-link power-down policies. -/
theorem policy_lists_first_occurrences (lib : Lib) (hs : List Handle) (he : lib.amdsmiGetProcessorHandles = .ok hs) :
    PolicyLaw hs lib.amdsmiGetSocPstate (getSocPstates lib) ∧
      PolicyLaw hs lib.amdsmiGetXgmiPlpd (getXgmiPlpdPolicies lib) :=
  ⟨getPolicyList_law lib _ hs he, getPolicyList_law lib _ hs he⟩

/-- Two devices, the second failing its SoC query. -/
theorem policy_lists_two_devices :
    let lib : Lib := { Lib.idle with
      amdsmiGetProcessorHandles := .ok [⟨0⟩, ⟨1⟩]
      amdsmiGetSocPstate := fun h => if h = ⟨0⟩ then .ok [⟨0, "balanced"⟩, ⟨1, "performance"⟩]
        else .error (.amdSmiLibraryException .notInit) }
    lib.amdsmiGetProcessorHandles = .ok [⟨0⟩, ⟨1⟩] ∧
      PolicyLaw [⟨0⟩, ⟨1⟩] lib.amdsmiGetSocPstate (getSocPstates lib) ∧
      PolicyLaw [⟨0⟩, ⟨1⟩] lib.amdsmiGetXgmiPlpd (getXgmiPlpdPolicies lib) := by
  intro lib
  exact ⟨rfl, policy_lists_first_occurrences lib _ rfl⟩

/-- **Other exceptions propagate**: a query raising anything but `AmdSmiLibraryException` (an
`AmdSmiParameterException`, say) at the first device where one is raised makes the helper raise it. -/
theorem policy_list_raises (lib : Lib) (query : Handle → Except PyExc (List Policy)) (pre post : List Handle)
    (dev : Handle) (e : PyExc) (he : lib.amdsmiGetProcessorHandles = .ok (pre ++ dev :: post))
    (hpre : ∀ h ∈ pre, Absorbed query h) (hd : query dev = .error e)
    (hne : ∀ c, e ≠ .amdSmiLibraryException c) :
    getPolicyList lib query = .error e := by
  simp only [getPolicyList, he, policyLoop_raises hd hne hpre, bind, Except.bind]

/-- Two devices, the second's SoC query refusing its handle. -/
theorem soc_pstates_parameter_error :
    let lib : Lib := { Lib.idle with
      amdsmiGetProcessorHandles := .ok [⟨0⟩, ⟨1⟩]
      amdsmiGetSocPstate := fun h => if h = ⟨0⟩ then .ok [⟨0, "balanced"⟩]
        else .error (.amdSmiParameterException h "invalid processor handle") }
    (∀ h ∈ [⟨0⟩], Absorbed lib.amdsmiGetSocPstate h) ∧
      getSocPstates lib = .error (.amdSmiParameterException ⟨1⟩ "invalid processor handle") := by
  intro lib
  have hpre : ∀ h ∈ [⟨0⟩], Absorbed lib.amdsmiGetSocPstate h := by
    simp only [List.mem_singleton, forall_eq]
    exact .inl ⟨_, rfl⟩
  exact ⟨hpre, policy_list_raises lib _ [⟨0⟩] [] ⟨1⟩ _ rfl hpre rfl fun _ => PyExc.noConfusion⟩

end AmdSmiCli
