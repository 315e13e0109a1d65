/-
**The resource getter's kind index: `GetGVRs` and `ParseKind` (`resourcesstore`).**

`NewResourceGetter` asks the discovery client for the server's preferred resources and builds
two things from the answer: `gvrs`, every group-version-resource served, and `gvktogvrSet`, a map
from a kind name, lowered, to its GVR. `ParseKind` resolves a kind as a URL spells it: the
lowered input first, then `inflection.Singular` of the input.

* `getGVRs_eq` — the loop of `GetGVRs` is `discovered`: one (lowered kind, GVR) pair per
  resource of a list that is non-empty and whose group version parses, in order; `gvrs` is
  their GVRs and the index stores them one after the other.
* `getGVRs_index_complete_consistent` — after a discovery without error, every discovered
  resource's GVR is in `gvrs`, its kind resolves to a GVR of the same lowered kind, and every
  GVR `ParseKind` returns is in `gvrs`.
* `parseKind_after_partial_discovery` — when discovery reports a failed group alongside the
  lists it did fetch, `GetGVRs` returns before its loop and `NewResourceGetter` drops the error:
  every kind is unknown, those of the fetched groups included.
* `parseKind_capitalised_plural_unknown` — the singular fallback looks up `Singular(kind)`, not
  its lowered form: for `Pods` it looks up `Pod`, which no lowered key matches, while `pods`
  resolves.
* `newResourceGetter_informers` — `NewInformersForResource` then builds an informer for exactly
  the discovered GVRs the factory serves (none after a discovery with an error), so every kind
  `ParseKind` resolves has its informer unless the factory refuses its GVR.

`strings.ToLower` and `inflection.Singular` are library functions, so they are parameters
`lower` and `singular` throughout; the results that depend on them say what they use of them
(`toLower`, the ASCII part of `strings.ToLower`, is the `lower` of the concrete runs). The
shared informer factory's `ForResource` is the parameter `forResource` the same way.
-/

import Pixiu.Discovery.Schema

namespace Pixiu.ResourcesStore

open Pixiu.Schema

/-- What `ServerPreferredResources` returns: the lists it fetched, and the error naming the
groups it could not fetch. client-go returns both when only some groups fail. -/
structure Discovery where
  lists : List APIResourceList
  err : Option String

/-- `gvktogvrSet`: Go's `map[string]schema.GroupVersionResource`. A `nil` map reads as empty. -/
def KindIndex := String → Option GroupVersionResource

/-- The map no key was stored in. -/
def KindIndex.empty : KindIndex := fun _ => none

/-- `m[key] = gvr`. -/
def KindIndex.store (m : KindIndex) (key : String) (gvr : GroupVersionResource) : KindIndex :=
  fun k => if k = key then some gvr else m k

/-- The discovery state of a `resourceGetter`: its `gvrs` and `gvktogvrSet`. -/
structure ResourceGetter where
  gvrs : List GroupVersionResource
  gvktogvrSet : KindIndex

/-- The GVR `GetGVRs` records for a resource of group version `gv`. -/
def gvrOf (gv : GroupVersion) (resource : APIResource) : GroupVersionResource :=
  ⟨gv.group, gv.version, resource.name⟩

/-! ## Part 1 — the code -/

section Code

variable (lower : String → String)

/-- The inner loop of `GetGVRs`, over one list's resources, with its two accumulators; `lower`
is `strings.ToLower`. -/
def addResources (gv : GroupVersion) :
    List APIResource → List GroupVersionResource → KindIndex →
      List GroupVersionResource × KindIndex
  | [], resources, set => (resources, set)
  | resource :: rest, resources, set =>
    addResources gv rest (resources ++ [gvrOf gv resource])
      (set.store (lower resource.kind) (gvrOf gv resource))

/-- The outer loop of `GetGVRs`: a list without resources, or whose group version does not
parse, is skipped. -/
def addLists :
    List APIResourceList → List GroupVersionResource → KindIndex →
      List GroupVersionResource × KindIndex
  | [], resources, set => (resources, set)
  | list :: rest, resources, set =>
    if list.apiResources = [] then addLists rest resources set else
    match parseGroupVersion list.groupVersion with
    | .error _ => addLists rest resources set
    | .ok gv =>
      let (resources, set) := addResources lower gv list.apiResources resources set
      addLists rest resources set

/-- `resourceGetter.GetGVRs`, given what discovery returned: on an error it returns the error
and leaves the getter as it was. -/
def getGVRs (rg : ResourceGetter) (discovery : Discovery) : ResourceGetter × Option String :=
  match discovery.err with
  | some err => (rg, some err)
  | none =>
    let (resources, set) := addLists lower discovery.lists [] .empty
    ({ rg with gvrs := resources, gvktogvrSet := set }, none)

/-- `NewResourceGetter`: a getter with no GVRs and a `nil` index, then `GetGVRs`, whose error
it ignores. -/
def newResourceGetter (discovery : Discovery) : ResourceGetter :=
  (getGVRs lower ⟨[], .empty⟩ discovery).1

variable (singular : String → String)

/-- `resourceGetter.ParseKind`, with `inflection.Singular` as `singular`. -/
def parseKind (rg : ResourceGetter) (kind : String) : Except String GroupVersionResource :=
  match rg.gvktogvrSet (lower kind) with
  | some gvr => .ok gvr
  | none =>
    match rg.gvktogvrSet (singular kind) with
    | some gvr => .ok gvr
    | none => .error "unknown kind"

/-- Whatever `ParseKind` returns was stored in the index. -/
theorem parseKind_stored {rg : ResourceGetter} {kind : String} {gvr : GroupVersionResource}
    (parsed : parseKind lower singular rg kind = .ok gvr) :
    ∃ key, rg.gvktogvrSet key = some gvr := by
  unfold parseKind at parsed
  split at parsed
  · cases parsed; exact ⟨_, ‹_›⟩
  · split at parsed
    · cases parsed; exact ⟨_, ‹_›⟩
    · cases parsed

/-- A kind whose lowered form is a key resolves to that key's GVR. -/
theorem parseKind_of_stored {rg : ResourceGetter} {kind : String} {gvr : GroupVersionResource}
    (stored : rg.gvktogvrSet (lower kind) = some gvr) :
    parseKind lower singular rg kind = .ok gvr := by
  simp [parseKind, stored]

/-- Over the empty index every kind is unknown. -/
theorem parseKind_empty (gvrs : List GroupVersionResource) (kind : String) :
    parseKind lower singular ⟨gvrs, .empty⟩ kind = .error "unknown kind" := rfl

/-! ## Part 2 — what the loops compute -/

/-- The (lowered kind, GVR) pairs the loop body produces for one list. -/
def listEntries (list : APIResourceList) : List (String × GroupVersionResource) :=
  if list.apiResources = [] then [] else
  match parseGroupVersion list.groupVersion with
  | .error _ => []
  | .ok gv => list.apiResources.map fun resource => (lower resource.kind, gvrOf gv resource)

/-- The pairs the whole loop produces, in order. -/
def discovered (lists : List APIResourceList) : List (String × GroupVersionResource) :=
  lists.flatMap (listEntries lower)

end Code

/-- The map after storing `entries` one after the other. -/
def KindIndex.storeAll (m : KindIndex) (entries : List (String × GroupVersionResource)) :
    KindIndex :=
  entries.foldl (fun m entry => m.store entry.1 entry.2) m

@[simp] theorem KindIndex.storeAll_nil (m : KindIndex) : m.storeAll [] = m := rfl

@[simp] theorem KindIndex.storeAll_append (m : KindIndex) (xs ys) :
    m.storeAll (xs ++ ys) = (m.storeAll xs).storeAll ys := List.foldl_append _ _ _ _

/-- A key of the map after `storeAll` was stored by one of the entries, or was there before. -/
theorem KindIndex.storeAll_some {m : KindIndex} {entries} {key gvr}
    (found : m.storeAll entries key = some gvr) : (key, gvr) ∈ entries ∨ m key = some gvr := by
  induction entries generalizing m with
  | nil => exact .inr found
  | cons entry rest ih =>
    obtain ⟨k, v⟩ := entry
    rcases ih found with mem | earlier
    · exact .inl (List.mem_cons_of_mem _ mem)
    · simp only [KindIndex.store] at earlier
      split at earlier
      · cases earlier; subst_vars; exact .inl (List.mem_cons_self _ _)
      · exact .inr earlier

/-- Storing never removes a key. -/
theorem KindIndex.storeAll_isSome_of_isSome {m : KindIndex} {entries} {key}
    (present : (m key).isSome) : (m.storeAll entries key).isSome := by
  induction entries generalizing m with
  | nil => exact present
  | cons entry rest ih =>
    apply ih
    simp only [KindIndex.store]
    split <;> simp [present]

/-- Every key an entry stores is found after `storeAll`. -/
theorem KindIndex.storeAll_isSome {m : KindIndex} {entries} {key gvr}
    (mem : (key, gvr) ∈ entries) : (m.storeAll entries key).isSome := by
  induction entries generalizing m with
  | nil => cases mem
  | cons entry rest ih =>
    rcases List.mem_cons.mp mem with rfl | later
    · exact @KindIndex.storeAll_isSome_of_isSome (m.store key gvr) rest key
        (by simp [KindIndex.store])
    · exact ih later

/-- The inner loop appends the list's GVRs and stores its entries. -/
theorem addResources_eq (lower : String → String) (gv : GroupVersion) (list : List APIResource)
    resources set :
    addResources lower gv list resources set =
      (resources ++ list.map (gvrOf gv),
        set.storeAll (list.map fun resource => (lower resource.kind, gvrOf gv resource))) := by
  induction list generalizing resources set with
  | nil => simp [addResources]
  | cons resource rest ih => simp [addResources, ih, KindIndex.storeAll]

/-- **The loop of `GetGVRs` is `discovered`**: it appends the GVRs of the discovered pairs
and stores the pairs, in order. -/
theorem addLists_eq (lower : String → String) (lists : List APIResourceList) resources set :
    addLists lower lists resources set =
      (resources ++ (discovered lower lists).map Prod.snd,
        set.storeAll (discovered lower lists)) := by
  induction lists generalizing resources set with
  | nil => simp [addLists, discovered]
  | cons list rest ih =>
    simp only [addLists, discovered, List.flatMap_cons, List.map_append,
      KindIndex.storeAll_append, ← List.append_assoc]
    unfold listEntries
    split
    · simpa [discovered] using ih resources set
    · split
      · simpa [discovered] using ih resources set
      · simp only [addResources_eq, List.map_map]
        rw [ih]
        rfl

/-- After a discovery without error, `gvrs` and the index are those of `discovered`. -/
theorem getGVRs_eq (lower : String → String) (rg : ResourceGetter) {discovery : Discovery}
    (ok : discovery.err = none) :
    (getGVRs lower rg discovery).1 =
      { rg with gvrs := (discovered lower discovery.lists).map Prod.snd,
                gvktogvrSet := KindIndex.empty.storeAll (discovered lower discovery.lists) } := by
  simp [getGVRs, ok, addLists_eq]

/-- What `NewResourceGetter` leaves: the GVRs and the index of the discovered pairs after a
discovery without error, and none at all after one with an error. -/
theorem newResourceGetter_eq (lower : String → String) (discovery : Discovery) :
    newResourceGetter lower discovery = if discovery.err = none then
      ⟨(discovered lower discovery.lists).map Prod.snd,
        KindIndex.empty.storeAll (discovered lower discovery.lists)⟩
    else ⟨[], .empty⟩ := by
  split
  · exact getGVRs_eq lower _ ‹_›
  · obtain ⟨err, failed⟩ := Option.ne_none_iff_exists'.mp ‹_›
    simp only [newResourceGetter, getGVRs, failed]

/-- The discovered pairs, resource by resource. -/
theorem mem_discovered {lower : String → String} {lists : List APIResourceList} {key gvr} :
    (key, gvr) ∈ discovered lower lists ↔
      ∃ list ∈ lists, list.apiResources ≠ [] ∧ ∃ gv, parseGroupVersion list.groupVersion = .ok gv ∧
        ∃ resource ∈ list.apiResources, lower resource.kind = key ∧ gvr = gvrOf gv resource := by
  simp only [discovered, List.mem_flatMap, listEntries]
  constructor
  · rintro ⟨list, mem, entry⟩
    split at entry
    · cases entry
    · split at entry
      · cases entry
      · obtain ⟨resource, mem', same⟩ := List.mem_map.mp entry
        cases same
        exact ⟨list, mem, ‹_›, _, ‹_›, resource, mem', rfl, rfl⟩
  · rintro ⟨list, mem, nonempty, gv, parsed, resource, mem', rfl, rfl⟩
    refine ⟨list, mem, ?_⟩
    simp only [nonempty, if_false, parsed]
    exact List.mem_map.mpr ⟨resource, mem', rfl⟩

/-! ## Part 3 — the index after a discovery without error -/

/-- **The kind index is complete for, and consistent with, the discovered lists.** After a
discovery without error: every resource of a non-empty list whose group version parses has its
GVR in `gvrs`; its kind resolves to a GVR of `gvrs` that a discovered resource of the same
lowered kind produced; and every GVR `ParseKind` returns, for any input, is in `gvrs`. This
holds for every `strings.ToLower` and every `inflection.Singular`. -/
theorem getGVRs_index_complete_consistent (lower singular : String → String)
    (rg : ResourceGetter) (discovery : Discovery) (ok : discovery.err = none) :
    (∀ list ∈ discovery.lists, list.apiResources ≠ [] →
      ∀ gv, parseGroupVersion list.groupVersion = .ok gv →
        ∀ resource ∈ list.apiResources, gvrOf gv resource ∈ (getGVRs lower rg discovery).1.gvrs) ∧
    (∀ list ∈ discovery.lists, list.apiResources ≠ [] →
      ∀ gv, parseGroupVersion list.groupVersion = .ok gv →
        ∀ resource ∈ list.apiResources, ∃ gvr,
          parseKind lower singular (getGVRs lower rg discovery).1 resource.kind = .ok gvr ∧
          gvr ∈ (getGVRs lower rg discovery).1.gvrs ∧
          ∃ list' ∈ discovery.lists, list'.apiResources ≠ [] ∧
            ∃ gv', parseGroupVersion list'.groupVersion = .ok gv' ∧
              ∃ resource' ∈ list'.apiResources,
                lower resource'.kind = lower resource.kind ∧ gvr = gvrOf gv' resource') ∧
    (∀ kind gvr, parseKind lower singular (getGVRs lower rg discovery).1 kind = .ok gvr →
      gvr ∈ (getGVRs lower rg discovery).1.gvrs) := by
  rw [getGVRs_eq lower rg ok]
  have inGvrs : ∀ {key gvr}, (key, gvr) ∈ discovered lower discovery.lists →
      gvr ∈ (discovered lower discovery.lists).map Prod.snd :=
    fun mem => List.mem_map.mpr ⟨_, mem, rfl⟩
  have stored : ∀ {key gvr},
      KindIndex.empty.storeAll (discovered lower discovery.lists) key = some gvr →
      (key, gvr) ∈ discovered lower discovery.lists := fun found =>
    (KindIndex.storeAll_some found).resolve_right (by simp [KindIndex.empty])
  refine ⟨?_, ?_, ?_⟩
  · intro list mem nonempty gv parsed resource mem'
    exact inGvrs (mem_discovered.mpr ⟨list, mem, nonempty, gv, parsed, resource, mem', rfl, rfl⟩)
  · intro list mem nonempty gv parsed resource mem'
    have entry : (lower resource.kind, gvrOf gv resource) ∈ discovered lower discovery.lists :=
      mem_discovered.mpr ⟨list, mem, nonempty, gv, parsed, resource, mem', rfl, rfl⟩
    obtain ⟨gvr, found⟩ := Option.isSome_iff_exists.mp (KindIndex.storeAll_isSome
      (m := KindIndex.empty) entry)
    exact ⟨gvr, parseKind_of_stored lower singular found, inGvrs (stored found),
      mem_discovered.mp (stored found)⟩
  · intro kind gvr parsed
    obtain ⟨key, found⟩ := parseKind_stored lower singular parsed
    exact inGvrs (stored found)

/-- A cluster serving `pods` in the core group: `v1/pods` is among the GVRs. -/
theorem getGVRs_index_complete_consistent_pods :
    (⟨[⟨"v1", [⟨"pods", "Pod"⟩]⟩], none⟩ : Discovery).err = none ∧
    ⟨"", "v1", "pods"⟩ ∈
      (getGVRs toLower ⟨[], .empty⟩ ⟨[⟨"v1", [⟨"pods", "Pod"⟩]⟩], none⟩).1.gvrs :=
  ⟨rfl, (getGVRs_index_complete_consistent toLower id ⟨[], .empty⟩
    ⟨[⟨"v1", [⟨"pods", "Pod"⟩]⟩], none⟩ rfl).1 _ (List.mem_singleton_self _) (by decide)
    ⟨"", "v1"⟩ (by decide) _ (List.mem_singleton_self _)⟩

/-! ## Part 4 — a discovery that failed for some groups -/

/-- **A partial discovery hides every kind.** When discovery reports a failed group, whatever
lists it fetched with it, `GetGVRs` returns before its loop and `NewResourceGetter` ignores the
error: the getter keeps its empty index and `ParseKind` fails for every input, whatever
`strings.ToLower` and `inflection.Singular` are. -/
theorem parseKind_after_partial_discovery (lower singular : String → String)
    (discovery : Discovery) (failed : discovery.err ≠ none) (kind : String) :
    parseKind lower singular (newResourceGetter lower discovery) kind = .error "unknown kind" := by
  obtain ⟨err, some⟩ := Option.ne_none_iff_exists'.mp failed
  simp only [newResourceGetter, getGVRs, some]
  exact parseKind_empty lower singular [] kind

/-- The core group served `pods` while an aggregated API failed: `pod` is unknown. -/
theorem parseKind_after_partial_discovery_pod :
    (⟨[⟨"v1", [⟨"pods", "Pod"⟩]⟩],
        some "metrics.k8s.io/v1beta1: the server is currently unable to handle the request"⟩ :
        Discovery).err ≠ none ∧
    parseKind toLower id (newResourceGetter toLower ⟨[⟨"v1", [⟨"pods", "Pod"⟩]⟩],
      some "metrics.k8s.io/v1beta1: the server is currently unable to handle the request"⟩) "pod" =
      .error "unknown kind" :=
  ⟨by decide, parseKind_after_partial_discovery toLower id _ (by decide) "pod"⟩

/-! ## Part 5 — the singular fallback and letter case -/

/-- **The capitalised plural of a discovered kind is unknown.** The fallback looks up
`Singular(kind)` as spelled, while the keys are lowered kinds. Over the index of a cluster
serving `pods` of kind `Pod`, with a `strings.ToLower` that lowers these three spellings as Go's
does, and a `Singular` that keeps the letter case of a regular plural (`pods` to `pod`, `Pods`
to `Pod`), `ParseKind "Pods"` fails while its lowered form resolves. -/
theorem parseKind_capitalised_plural_unknown (lower singular : String → String)
    (kindLowered : lower "Pod" = "pod") (pluralLowered : lower "Pods" = "pods")
    (lowerKept : lower "pods" = "pods")
    (plural : singular "pods" = "pod") (capitalised : singular "Pods" = "Pod") :
    parseKind lower singular (newResourceGetter lower ⟨[⟨"v1", [⟨"pods", "Pod"⟩]⟩], none⟩) "Pods" =
        .error "unknown kind" ∧
      parseKind lower singular (newResourceGetter lower ⟨[⟨"v1", [⟨"pods", "Pod"⟩]⟩], none⟩)
        (lower "Pods") = .ok ⟨"", "v1", "pods"⟩ := by
  have index : discovered lower [⟨"v1", [⟨"pods", "Pod"⟩]⟩] =
      [(lower "Pod", ⟨"", "v1", "pods"⟩)] := rfl
  rw [newResourceGetter_eq lower, if_pos rfl]
  simp only [parseKind, index, kindLowered, pluralLowered, lowerKept, plural, capitalised]
  decide

/-- `inflection.Singular` on a regular plural: the final `s` dropped, the rest spelled as it
was. -/
def regularSingular (s : String) : String :=
  match s.data.reverse with
  | c :: rest => if c = 's' ∨ c = 'S' then ⟨rest.reverse⟩ else s
  | [] => s

theorem parseKind_capitalised_plural_unknown_regular :
    (toLower "Pod" = "pod" ∧ toLower "Pods" = "pods" ∧ toLower "pods" = "pods") ∧
      (regularSingular "pods" = "pod" ∧ regularSingular "Pods" = "Pod") ∧
      parseKind toLower regularSingular
          (newResourceGetter toLower ⟨[⟨"v1", [⟨"pods", "Pod"⟩]⟩], none⟩) "Pods" =
        .error "unknown kind" ∧
      parseKind toLower regularSingular
          (newResourceGetter toLower ⟨[⟨"v1", [⟨"pods", "Pod"⟩]⟩], none⟩)
        (toLower "Pods") = .ok ⟨"", "v1", "pods"⟩ :=
  ⟨⟨by decide, by decide, by decide⟩, ⟨by decide, by decide⟩,
    parseKind_capitalised_plural_unknown toLower regularSingular (by decide) (by decide)
      (by decide) (by decide) (by decide)⟩

/-! ## Part 6 — the informers `NewResourceGetter` builds -/

section Informers

variable {I : Type} (forResource : GroupVersionResource → Except String I)

/-- One pass of the loop of `NewInformersForResource`, with the shared informer factory's
`ForResource` as `forResource`: a GVR the factory refuses is skipped (`continue`), and
`informers[gvr] = informer` otherwise. -/
def addInformer (informers : GroupVersionResource → Option I) (gvr : GroupVersionResource) :
    GroupVersionResource → Option I :=
  match forResource gvr with
  | .ok informer => fun g => if g = gvr then some informer else informers g
  | .error _ => informers

/-- `resourceGetter.NewInformersForResource`: the loop over `gvrs`, from an empty map. -/
def newInformersForResource (rg : ResourceGetter) : GroupVersionResource → Option I :=
  rg.gvrs.foldl (addInformer forResource) fun _ => none

theorem addInformer_apply (informers : GroupVersionResource → Option I)
    (gvr g : GroupVersionResource) :
    addInformer forResource informers gvr g =
      if g = gvr then (forResource g).toOption.or (informers g) else informers g := by
  unfold addInformer
  by_cases same : g = gvr
  · subst same
    cases forResource g <;> simp [Except.toOption]
  · cases forResource gvr <;> simp [same]

/-- The loop stores, for each GVR of the list, the informer the factory gives for it, if any. -/
theorem foldl_addInformer (g : GroupVersionResource) :
    ∀ (gvrs : List GroupVersionResource) (informers : GroupVersionResource → Option I),
      gvrs.foldl (addInformer forResource) informers g =
        if g ∈ gvrs then (forResource g).toOption.or (informers g) else informers g
  | [], _ => rfl
  | gvr :: rest, informers => by
    rw [List.foldl_cons, foldl_addInformer g rest, addInformer_apply]
    by_cases here : g = gvr
    · subst here
      cases forResource g <;> simp [Except.toOption]
    · simp [here]

/-- A GVR has an informer exactly when it is among `gvrs` and the factory serves it. -/
theorem newInformersForResource_some (rg : ResourceGetter) (gvr : GroupVersionResource)
    (informer : I) : newInformersForResource forResource rg gvr = some informer ↔
      gvr ∈ rg.gvrs ∧ forResource gvr = .ok informer := by
  rw [newInformersForResource, foldl_addInformer]
  split <;> cases forResource gvr <;> simp [Except.toOption, *]

end Informers

/-- Whatever `ParseKind` returns over the getter `NewResourceGetter` built is among its GVRs. -/
theorem parseKind_mem_gvrs (lower singular : String → String) {discovery : Discovery}
    {kind : String} {gvr : GroupVersionResource}
    (parsed : parseKind lower singular (newResourceGetter lower discovery) kind = .ok gvr) :
    gvr ∈ (newResourceGetter lower discovery).gvrs := by
  obtain ⟨key, found⟩ := parseKind_stored lower singular parsed
  rw [newResourceGetter_eq] at found ⊢
  split at found
  · rw [if_pos ‹_›]
    have entry := (KindIndex.storeAll_some found).resolve_right (by simp [KindIndex.empty])
    exact List.mem_map.mpr ⟨_, entry, rfl⟩
  · cases found

/-- **`NewResourceGetter` builds an informer for exactly the discovered GVRs the factory serves,
and for every kind `ParseKind` resolves unless the factory refuses its GVR.** A GVR has an
informer exactly when a discovery without error produced it, from a non-empty list whose group
version parses, and the shared informer factory's `ForResource` serves it; so after a discovery
with an error there are no informers at all. The GVR of every kind `ParseKind` resolves has an
informer exactly when the factory serves it. -/
theorem newResourceGetter_informers {I : Type} (lower singular : String → String)
    (forResource : GroupVersionResource → Except String I) (discovery : Discovery) :
    (∀ gvr informer,
      newInformersForResource forResource (newResourceGetter lower discovery) gvr = some informer ↔
        discovery.err = none ∧ gvr ∈ (discovered lower discovery.lists).map Prod.snd ∧
          forResource gvr = .ok informer) ∧
    ∀ kind gvr, parseKind lower singular (newResourceGetter lower discovery) kind = .ok gvr →
      ∀ informer,
      newInformersForResource forResource (newResourceGetter lower discovery) gvr = some informer ↔
        forResource gvr = .ok informer := by
  refine ⟨fun gvr informer => ?_, fun kind gvr parsed informer => ?_⟩
  · rw [newInformersForResource_some, newResourceGetter_eq]
    split <;> simp [*]
  · rw [newInformersForResource_some]
    exact and_iff_right (parseKind_mem_gvrs lower singular parsed)

end Pixiu.ResourcesStore
