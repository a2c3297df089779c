import BuilderGen.Proofs.Builder.Parameters

/-!
# The names of local variables

A function that creates an element holds it in a variable, next to the wrapped instance and its
parameters. If the plain name of the variable is one of theirs, the variable gets another one with
`child` in front, which is not compared with theirs again.

* `scope`: the names that stand beside the variable;
* `plainLocal`, `childLocal`: the two names that the variable may have, with
  `instanceName_targetOf`;
* `instanceName_mem_scope_iff`: the variable hides a name exactly if both of its names are taken,
  the second one by the wrapped instance or by an attribute of that word.
-/

namespace BuilderGen.Builder

open BuilderGen.Schema (HostClass Manifest Settings)
open BuilderGen.Source (ClassRef Parameter)

/-! ## 1. Names in scope -/

/-- The names beside the variable of a function: the wrapped instance and the parameters. -/
def scope (property : String) (r : Relationship) (t : Target) : List String :=
  property :: (childFunction property r t).parameters.map Parameter.name

theorem mem_scope {property name : String} {r : Relationship} {t : Target} :
    name ∈ scope property r t ↔ name = property ∨ (t.nested.isSome = true ∧ name = initName) ∨
      ∃ a ∈ t.attributes, a.parameter = name := by
  have hparameters : (childFunction property r t).parameters.map Parameter.name =
      t.attributes.map AttributeShape.parameter ++ (t.nested.map fun _ => initName).toList := by
    rw [childFunction, List.map_append, List.map_map]
    cases t.nested <;> rfl
  have hinit : name ∈ (t.nested.map fun _ => initName).toList ↔
      t.nested.isSome = true ∧ name = initName := by
    cases t.nested <;> simp
  rw [scope, hparameters, List.mem_cons, List.mem_append, List.mem_map, hinit]
  exact or_congr_right or_comm

/-! ## 2. Names of a variable -/

/-- The plain name of the variable for a class, as it is written. -/
def plainLocal (host : ClassRef) : String := Name.escape (Name.instanceName host.simpleName)

/-- The name of the variable if the plain one is taken. -/
def childLocal (host : ClassRef) : String :=
  localWord ++ Text.capitalize (Name.instanceName host.simpleName)

theorem localWord_append_not_mem_keywords (rest : String) : localWord ++ rest ∉ Name.keywords := by
  have hkeywords : ∀ k ∈ Name.keywords, ¬ localWord.toList <+: k.toList := by decide
  intro hmem
  refine hkeywords _ hmem ?_
  rw [String.toList_append]
  exact List.prefix_append _ _

theorem bare_childLocal (host : ClassRef) : Name.Bare (childLocal host) := by
  unfold Name.Bare childLocal
  rw [String.toList_append]
  simp [localWord]

/-- A name with `child` in front is written as it stands only if it is this name. -/
theorem escape_eq_childLocal {name : String} {host : ClassRef} :
    Name.escape name = childLocal host ↔ name = childLocal host :=
  Name.escape_eq_iff (bare_childLocal host) (localWord_append_not_mem_keywords _)

/-- A name with `child` in front is none of those that stand for a configuration. -/
theorem childLocal_ne_initName (host : ClassRef) : childLocal host ≠ initName := by
  intro e
  have := congrArg (fun s => s.toList.head?) e
  simp [childLocal, localWord, initName] at this

theorem childLocal_ne_initValueName (host : ClassRef) : childLocal host ≠ initValueName := by
  intro e
  have := congrArg (fun s => s.toList.head?) e
  simp [childLocal, localWord, initName, initValueName] at this

section

variable {h : Hierarchy} {package property : String} {r : Relationship} {c : h.Id}

theorem isSome_nested_targetOf :
    (targetOf h package property c).nested.isSome = h.takesElements c := by
  rw [targetOf]
  cases h.takesElements c <;> rfl

/-- **The variable has its plain name, or the other one if the plain name is taken.** -/
theorem instanceName_targetOf (r : Relationship) :
    (targetOf h package property c).instanceName =
      if plainLocal (h.classRef c) ∈ scope property r (targetOf h package property c) then
        childLocal (h.classRef c)
      else plainLocal (h.classRef c) := by
  have hchild : Name.escape (localWord ++
      Text.capitalize (Name.instanceName (h.classRef c).simpleName)) = childLocal (h.classRef c) :=
    escape_eq_childLocal.2 rfl
  have hlocal : (targetOf h package property c).instanceName = localFor property
      (h.classRef c).simpleName (targetOf h package property c).attributes (h.takesElements c) := by
    simp only [targetOf]
  rw [hlocal]
  unfold localFor
  dsimp only
  rw [hchild]
  refine if_congr ?_ rfl rfl
  rw [mem_scope, isSome_nested_targetOf, plainLocal]
  simp only [Bool.or_eq_true, Bool.and_eq_true, beq_iff_eq, List.any_eq_true, or_assoc]

/-- The name with `child` in front is taken by the wrapped instance or by an attribute. -/
theorem childLocal_mem_scope {host : ClassRef} :
    childLocal host ∈ scope property r (targetOf h package property c) ↔
      childLocal host = property ∨ ∃ a ∈ h.attributes c, parameterWord a = childLocal host := by
  have hgive : ∀ a, parameterName (h.takesElements c) a = childLocal host ↔
      parameterWord a = childLocal host := by
    intro a
    rw [parameterName, escape_eq_childLocal]
    unfold giveWay
    split
    · rename_i hw
      rw [hw.2]
      exact iff_of_false (childLocal_ne_initValueName host).symm
        (childLocal_ne_initName host).symm
    · rfl
  rw [mem_scope, or_iff_right (fun e => childLocal_ne_initName host e.2) (a := _ ∧ _)]
  refine or_congr_right ?_
  rw [← List.mem_map, parameters_targetOf, List.mem_map]
  refine exists_congr fun a => and_congr ?_ (hgive a)
  exact (ordered_perm _).mem_iff

end

/-! ## 3. Hidden names -/

/-- **A variable hides a name exactly if its plain name is taken and the other one too**, either by
the wrapped instance or by an attribute of that word. It never hides the configuration of nested
elements. -/
theorem instanceName_mem_scope_iff {h : Hierarchy} {package : String} {i : h.Id} {shape : Shape}
    (hd : (derive h package i).result = .ok shape) {r : Relationship}
    (hr : r ∈ shape.relationships) {t : Target} (ht : t ∈ r.targets) :
    ∃ c, h.classRef c = t.host ∧
      (t.instanceName ∈ scope shape.property r t ↔
        plainLocal t.host ∈ scope shape.property r t ∧
        (Name.instanceName shape.host.simpleName = childLocal t.host ∨
          ∃ a ∈ h.attributes c, parameterWord a = childLocal t.host)) ∧
      (t.nested.isSome = true → t.instanceName ≠ initName) := by
  obtain ⟨c, -, -, rfl⟩ := exists_class_of_target hd hr ht
  have hproperty : shape.property = Name.escape (Name.instanceName shape.host.simpleName) := by
    obtain ⟨-, hhost, hproperty⟩ := head_of_derive hd
    rw [hproperty, hhost, propertyOf]
  have hhost : (targetOf h package shape.property c).host = h.classRef c := by
    simp only [targetOf]
  have howner : childLocal (h.classRef c) = shape.property ↔
      Name.instanceName shape.host.simpleName = childLocal (h.classRef c) := by
    rw [hproperty, eq_comm, escape_eq_childLocal]
  refine ⟨c, hhost.symm, ?_, fun hn => ?_⟩
  · rw [hhost, ← howner, ← childLocal_mem_scope (r := r), instanceName_targetOf r]
    split
    · rename_i hplain
      exact (and_iff_right hplain).symm
    · rename_i hplain
      exact iff_of_false hplain fun hboth => hplain hboth.1
  · rw [instanceName_targetOf r]
    split
    · exact childLocal_ne_initName _
    · rename_i hplain
      exact fun e => hplain (mem_scope.2 (.inr (.inl ⟨hn, e⟩)))

/-! ## 4. A server -/

/-- A server with a log, which has the attributes `log` and `childLog`. -/
def server : Manifest := ⟨Settings.default, [
  { HostClass.plain "p" "Server" with
    element := some "server", children := [⟨"setLog", "Log"⟩] },
  { HostClass.plain "p" "Log" with
    element := some "log", attributes := [requiredText "setLog", requiredText "setChildLog"] }]⟩

/-- The hierarchy of these classes. -/
def serverHierarchy : Hierarchy := .ofLineages server.classes [[0], [1]]

/-- What the function for the log is written from. -/
def logTarget : Target := targetOf serverHierarchy "d" "server" (1 : Fin 2)

/-- The slot of the log. -/
def logSlot : Relationship := ⟨"setLog", "log", false, "p.Log", [logTarget]⟩

/-- The shape of the builder of the server. -/
def serverShape : Shape := ⟨.topLevel "d" "ServerSpec", ⟨"p", ["Server"]⟩, "server", [logSlot]⟩

theorem build_server : Hierarchy.build server = .ok serverHierarchy :=
  Hierarchy.build_of_lineages (by decide) (by decide) (by decide) rfl

theorem derive_server : (derive serverHierarchy "d" (0 : Fin 2)).result = .ok serverShape := by
  decide +kernel

/-- The variable for the log gives way to one parameter and hides the other one. -/
theorem instanceName_in_server :
    Hierarchy.build server = .ok serverHierarchy ∧
    (derive serverHierarchy "d" (0 : Fin 2)).result = .ok serverShape ∧
    logSlot ∈ serverShape.relationships ∧ logTarget ∈ logSlot.targets ∧
    logTarget.instanceName = "childLog" ∧
    logTarget.attributes.map AttributeShape.parameter = ["log", "childLog"] := by
  have hr : logSlot ∈ serverShape.relationships := List.mem_singleton_self _
  have ht : logTarget ∈ logSlot.targets := List.mem_singleton_self _
  exact ⟨build_server, derive_server, hr, ht, by decide +kernel, by decide +kernel⟩

theorem scope_in_server :
    Hierarchy.build server = .ok serverHierarchy ∧
    (derive serverHierarchy "d" (0 : Fin 2)).result = .ok serverShape ∧
    logSlot ∈ serverShape.relationships ∧ logTarget ∈ logSlot.targets ∧
    ∃ c, serverHierarchy.classRef c = logTarget.host ∧
      (logTarget.instanceName ∈ scope serverShape.property logSlot logTarget ↔
        plainLocal logTarget.host ∈ scope serverShape.property logSlot logTarget ∧
        (Name.instanceName serverShape.host.simpleName = childLocal logTarget.host ∨
          ∃ a ∈ serverHierarchy.attributes c, parameterWord a = childLocal logTarget.host)) ∧
      (logTarget.nested.isSome = true → logTarget.instanceName ≠ initName) := by
  have hr : logSlot ∈ serverShape.relationships := List.mem_singleton_self _
  have ht : logTarget ∈ logSlot.targets := List.mem_singleton_self _
  exact ⟨build_server, derive_server, hr, ht,
    instanceName_mem_scope_iff derive_server hr ht⟩

end BuilderGen.Builder
