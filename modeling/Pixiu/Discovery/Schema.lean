/-
**The discovery types the resource getter reads: `schema` and `metav1` from apimachinery.**

Only what `GetGVRs` and `ParseKind` touch is kept: a resource list's `GroupVersion` string and,
for each resource, its plural `Name` and its `Kind`.

* `parseGroupVersion` — `schema.ParseGroupVersion`: `""` and `"/"` are the empty group version,
  a string without a slash is a version of the legacy core group, `group/version` splits at the
  slash, and more than one slash is an error.
* `toLower` — the ASCII part of `strings.ToLower`, for concrete runs: the resource getter takes
  `strings.ToLower` itself as a parameter.

Strings are taken apart through their character lists, so that every definition here evaluates
by `decide`.
-/

import Pixiu.Basic

namespace Pixiu.Schema

/-- `schema.GroupVersion`. -/
structure GroupVersion where
  group : String
  version : String
deriving DecidableEq, Repr

/-- `schema.GroupVersionResource`: the resource is the plural name. -/
structure GroupVersionResource where
  group : String
  version : String
  resource : String
deriving DecidableEq, Repr

/-- `metav1.APIResource`: the plural `Name` and the `Kind`. -/
structure APIResource where
  name : String
  kind : String
deriving DecidableEq, Repr

/-- `metav1.APIResourceList`: the resources one group version serves. -/
structure APIResourceList where
  groupVersion : String
  apiResources : List APIResource
deriving DecidableEq, Repr

/-- `schema.ParseGroupVersion`. -/
def parseGroupVersion (gv : String) : Except String GroupVersion :=
  if gv.data = [] ∨ gv = "/" then .ok ⟨"", ""⟩ else
  match gv.data.count '/' with
  | 0 => .ok ⟨"", gv⟩
  | 1 => .ok ⟨⟨gv.data.takeWhile (· != '/')⟩, ⟨(gv.data.dropWhile (· != '/')).drop 1⟩⟩
  | _ => .error ("unexpected GroupVersion string: " ++ gv)

example : parseGroupVersion "apps/v1" = .ok ⟨"apps", "v1"⟩ := by decide

example : parseGroupVersion "v1" = .ok ⟨"", "v1"⟩ := by decide

/-- `strings.ToLower` on ASCII: `Char.toLower` lowers the ASCII letters and keeps every other
rune, where Go lowers every rune that has a lower case. The concrete runs spell their kinds in
ASCII, where the two agree. -/
def toLower (s : String) : String := ⟨s.data.map Char.toLower⟩

example : toLower "Pods" = "pods" := by decide

end Pixiu.Schema
