import ReplicaSeed.Method.Registry

/-!
# The registered methods

Which methods an agent offers: those that its configuration enables, each as its module defines it.

## Main definitions

* `Config.Methods.method`: the method of each kind under a configuration.
* `Config.Methods.enabled`: whether the configuration enables it.

## Main statements

* `Registry.get?_register`: a method that is registered takes the place of one of its kind.
* `Registry.get?_ofConfig`: the methods of a configuration.
-/

namespace ReplicaSeed

namespace Config.Methods

/-- The method of a kind under a configuration. -/
def method (methods : Config.Methods) (site : Site) :
    Method → SeedMethod Interface.host
  | .mysqldump => Mysqldump.method site methods.mysqldump
  | .mydumper => Mydumper.method site methods.mydumper
  | .xtrabackup => Xtrabackup.method site methods.xtrabackup
  | .lvm => Lvm.method site methods.lvm
  | .clonePlugin => ClonePlugin.method site

/-- The configuration enables the method of a kind. -/
def enabled (methods : Config.Methods) : Method → Bool
  | .mysqldump => methods.mysqldump.enabled
  | .mydumper => methods.mydumper.enabled
  | .xtrabackup => methods.xtrabackup.enabled
  | .lvm => methods.lvm.enabled
  | .clonePlugin => methods.clonePlugin.enabled

theorem kind_method (methods : Config.Methods) (site : Site) (kind : Method) :
    (methods.method site kind).kind = kind := by
  cases kind <;> rfl

end Config.Methods

namespace Registry

variable {I : Interface}

theorem kind_of_find? {r : Registry I} {kind : Method} {e : Registration I}
    (h : r.find? kind = some e) : e.method.kind = kind := by
  simpa using List.find?_some h

theorem find?_put (r : Registry I) {kind : Method} {entry : Registration I}
    (own : entry.method.kind = kind) (k : Method) :
    (r.put kind entry).find? k = if k = kind then some entry else r.find? k := by
  let f (k : Method) := if k = kind then some entry else r.find? k
  have kinds {k : Method} {e : Registration I} (h : f k = some e) : e.method.kind = k := by
    unfold f at h
    split at h
    · cases h
      simp_all
    · exact kind_of_find? h
  have found (k' : Method) :
      Option.any (fun e => e.method.kind == k) (f k') = (k' == k && (f k').isSome) := by
    cases h : f k' with
    | none => simp
    | some e => simp [kinds h]
  -- Each kind stands once in `Method.all`, so the search by kind finds the entry of that kind.
  change List.find? _ (Method.all.filterMap f) = f k
  rw [List.find?_filterMap]
  simp only [found]
  cases h : f k <;> cases k <;> simp [Method.all, h]

/-- A method that is registered takes the place of one of its kind. -/
theorem get?_register (r : Registry I) (m : SeedMethod I) (k : Method) :
    (r.register m).get? k = if k = m.kind then some m else r.get? k := by
  let entry : Registration I := ⟨m, none, m.describe none false⟩
  have own : entry.method.kind = m.kind := rfl
  rw [get?, register, find?_put r own k]
  split <;> rfl

theorem get?_register_if (r : Registry I) (on : Bool) (m : SeedMethod I) (k : Method) :
    (if on then r.register m else r).get? k =
      if on = true ∧ k = m.kind then some m else r.get? k := by
  cases on
  · simp
  · simp [get?_register]

/-- The methods of a configuration are those that it enables. -/
theorem get?_ofConfig (site : Site) (methods : Config.Methods) (kind : Method) :
    (ofConfig site methods).get? kind =
      if methods.enabled kind then some (methods.method site kind) else none := by
  have registered : ofConfig site methods = Method.all.foldl
      (fun r k => if methods.enabled k then r.register (methods.method site k) else r) empty := rfl
  have none_ : (empty : Registry Interface.host).get? kind = none := rfl
  simp only [registered, Method.all, List.foldl_cons, List.foldl_nil, get?_register_if,
    Config.Methods.kind_method, none_]
  cases kind <;> simp

end Registry
end ReplicaSeed
