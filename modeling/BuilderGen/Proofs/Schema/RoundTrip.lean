import BuilderGen.Proofs.Json.Values
import BuilderGen.Schema.Reader
import BuilderGen.Schema.Writer

/-!
# Writing a manifest and reading it

A manifest that is written as JSON is read as the same manifest. The names and the defaults of the
fields are told twice, for writing and for reading, so this is shown record by record, from the
innermost outwards.

* `exists_fields`: a record that was written with all its fields is read with them;
* `Manifest.Storable`, `Manifest.Shallow`: sampled values without fractions, and not too deep;
* `Manifest.ofJson_toJson`: what is read of the text of a manifest.
-/

namespace BuilderGen.Schema

open BuilderGen.Data (Node Value Ordered)
open BuilderGen.Json (Plain readAt maxLevel)

/-! ## 1. Fields -/

/-- A key that stands once is looked up where it stands. -/
theorem lookup_of_mem {α : Type} {entries : List (String × α)}
    (hnodup : (entries.map Prod.fst).Nodup) {e : String × α} (he : e ∈ entries) :
    entries.lookup e.1 = some e.2 := by
  induction entries with
  | nil => cases he
  | cons f entries ih =>
    obtain ⟨hfresh, hrest⟩ := List.nodup_cons.1 hnodup
    rw [List.lookup_cons]
    rcases List.mem_cons.1 he with rfl | he
    · rw [beq_self_eq_true]
    · have hmem : e.1 ∈ entries.map Prod.fst := List.mem_map_of_mem he
      have hne : e.1 ≠ f.1 := fun h => hfresh (h ▸ hmem)
      rw [beq_false_of_ne hne]
      exact ih hrest he

/-- The entries of a table are known if their keys are names of fields. -/
theorem knownEntries_of_mem {form : RecordForm} {names : List String}
    {entries : List (String × Node)} (hnames : ∀ e ∈ entries, e.1 ∈ names)
    (hnodup : (entries.map Prod.fst).Nodup) :
    knownEntries form names (entries.map fun e => (some e.1, e.2)) = some entries := by
  induction entries with
  | nil => rfl
  | cons e entries ih =>
    obtain ⟨key, node⟩ := e
    obtain ⟨hfresh, hrest⟩ := List.nodup_cons.1 hnodup
    have hlookup : entries.lookup key = none := by
      rw [List.lookup_eq_none_iff]
      intro f hf
      have hmem : f.1 ∈ entries.map Prod.fst := List.mem_map_of_mem hf
      have hne : key ≠ f.1 := fun e => hfresh (e ▸ hmem)
      simpa using hne
    rw [List.map_cons, knownEntries, ih (fun f hf => hnames f (List.mem_cons_of_mem _ hf)) hrest]
    dsimp only
    rw [if_neg (not_not_intro (hnames (key, node) List.mem_cons_self)), hlookup]
    rfl

/-- **A record that was written with all its fields is read with them**: under its name, each holds
what is read of its document. -/
theorem exists_fields (form : RecordForm) (names : List String) (node : Node)
    {entries : List (String × Node)} (hnode : node = .ofEntries entries)
    (hnames : names = entries.map Prod.fst) (hnodup : names.Nodup) {level : Nat}
    (hlevel : level + 1 < maxLevel) :
    ∃ fields : Fields, fields? form names (readAt level node) = some fields ∧
      ∀ e ∈ entries, fields.lookup e.1 = some (readAt (level + 1) e.2) := by
  have hkeys : names = (entries.map fun e => (e.1, readAt (level + 1) e.2)).map Prod.fst := by
    rw [List.map_map]
    exact hnames
  subst hkeys hnode
  refine ⟨entries.map fun e => (e.1, readAt (level + 1) e.2), ?_, fun e he => ?_⟩
  · rw [Json.readAt_ofEntries hlevel]
    exact knownEntries_of_mem (fun e he => List.mem_map_of_mem he) hnodup
  · exact lookup_of_mem (e := (e.1, readAt (level + 1) e.2)) hnodup (List.mem_map.2 ⟨e, he, rfl⟩)

/-! ## 2. Lists, nullable texts and sampled tables -/

/-- The items of a list are read one by one. -/
theorem list?_map_ite {α : Type} {read : Node → Option α} {f : α → Node} {p : α → Prop}
    [DecidablePred p] {items : List α}
    (hread : ∀ a ∈ items, read (f a) = if p a then some a else none) :
    list? read (.list (items.map f)) = if ∀ a ∈ items, p a then some items else none := by
  rw [list?]
  induction items with
  | nil =>
    rw [if_pos (List.forall_mem_nil p)]
    rfl
  | cons a items ih =>
    have hrest := ih fun b hb => hread b (List.mem_cons_of_mem a hb)
    rw [List.map_cons, List.mapM_cons, hread a List.mem_cons_self, hrest]
    exact Data.bind_ite_some List.forall_mem_cons List.cons a items

theorem list?_map {α : Type} {read : Node → Option α} {f : α → Node} {items : List α}
    (hread : ∀ a ∈ items, read (f a) = some a) :
    list? read (.list (items.map f)) = some items := by
  rw [list?_map_ite (p := fun _ => True) (by simpa using hread)]
  exact if_pos fun _ _ => trivial

/-- What may be null is read as it is read where it may not. -/
theorem nullable?_of_read {α : Type} {read : Node → Option α} {node : Node} {a : α}
    (hnull : read .null = none) (hread : read node = some a) :
    nullable? read node = some (some a) := by
  cases node with
  | null =>
    rw [hnull] at hread
    cases hread
  | _ => exact congrArg (Option.map some) hread

theorem nullable?_optionalText (level : Nat) (o : Option String) :
    nullable? text? (readAt level (optionalText o)) = some o := by
  cases o with
  | none => rfl
  | some s => exact nullable?_of_read rfl rfl

/-- A sampled table is read back unless one of its values is too deep. -/
theorem samples?_readAt {entries : List (String × Value)} (hordered : Ordered entries)
    (hentries : ∀ e ∈ entries, e.2.Storable) {level : Nat} (hlevel : level + 1 < maxLevel) :
    samples? (readAt level (samplesNode entries)) =
      if level + 1 + Value.entriesDepth entries < maxLevel then some entries else none := by
  rw [samplesNode, readAt, if_pos hlevel, samples?]
  exact Data.sortEntries_readEntriesAt hordered (fun e he => (hentries e he).readsBack) hlevel

/-! ## 3. Settings and classes -/

theorem Attribute.ofNode?_readAt (a : Attribute) {level : Nat} (hlevel : level + 1 < maxLevel) :
    Attribute.ofNode? .json (readAt level a.toNode) = some a := by
  obtain ⟨f, hf, hlookup⟩ :=
    exists_fields .json attributeFields a.toNode rfl rfl (by decide) hlevel
  simp only [List.forall_mem_cons] at hlookup
  rw [Attribute.ofNode?, hf]
  simp [Fields.required, Fields.withDefault, hlookup, text?, bool?]

theorem ChildSlot.ofNode?_readAt (c : ChildSlot) {level : Nat} (hlevel : level + 1 < maxLevel) :
    ChildSlot.ofNode? .json (readAt level c.toNode) = some c := by
  obtain ⟨f, hf, hlookup⟩ :=
    exists_fields .json childFields c.toNode rfl rfl (by decide) hlevel
  simp only [List.forall_mem_cons] at hlookup
  rw [ChildSlot.ofNode?, hf]
  simp [Fields.required, hlookup, text?]

theorem EntryPoint.ofNode?_readAt (e : EntryPoint) {level : Nat} (hlevel : level + 1 < maxLevel) :
    EntryPoint.ofNode? .json (readAt level e.toNode) = some e := by
  obtain ⟨f, hf, hlookup⟩ :=
    exists_fields .json entryFields e.toNode rfl rfl (by decide) hlevel
  simp only [List.forall_mem_cons] at hlookup
  rw [EntryPoint.ofNode?, hf]
  simp [Fields.required, hlookup, text?]

theorem nat?_natCast {n : Nat} (hn : n < 2 ^ 64) : nat? (.int n) = some n := by
  have hword : (0 : Int) ≤ n ∧ (n : Int) < Nat.pow 2 64 := by
    refine ⟨Int.natCast_nonneg n, ?_⟩
    exact_mod_cast hn
  rw [nat?, if_pos hword, Int.toNat_natCast]

/-- The document of an entry point that may be missing. -/
theorem nullable?_entry {level : Nat} (hlevel : level + 1 < maxLevel) (o : Option EntryPoint) :
    nullable? (EntryPoint.ofNode? .json) (readAt level (o.elim .null EntryPoint.toNode)) =
      some o := by
  cases o with
  | none => rfl
  | some e => exact nullable?_of_read rfl (e.ofNode?_readAt hlevel)

theorem Settings.toNode_eq (s : Settings) :
    s.toNode = .ofEntries [("package", .text s.package), ("output_dir", .text s.outputDir),
      ("indent", .int s.indent), ("file_extension", .text s.fileExtension),
      ("entry", s.entry.elim .null EntryPoint.toNode)] := by
  rw [Settings.toNode]
  cases s.entry with
  | none => rfl
  | some e => rfl

theorem Settings.ofNode?_readAt {s : Settings} (hs : s.indent < 2 ^ 64) {level : Nat}
    (hlevel : level + 2 < maxLevel) :
    Settings.ofNode? .json (readAt level s.toNode) = some s := by
  obtain ⟨f, hf, hlookup⟩ :=
    exists_fields .json settingsFields s.toNode s.toNode_eq rfl (by decide)
      (Nat.lt_of_succ_lt hlevel)
  simp only [List.forall_mem_cons] at hlookup
  rw [Settings.ofNode?, hf]
  simp [Fields.withDefault, hlookup, text?, nat?_natCast hs, nullable?_entry hlevel]

/-- What was observed on an instance can be written: tables are in order, and no value has
fractions. -/
structure Sample.Storable (s : Sample) : Prop where
  getters : Ordered s.getters
  fields : Ordered s.fields
  values : ∀ e ∈ s.getters ++ s.fields, e.2.Storable

/-- The depth of the deepest sampled value. -/
def Sample.depth (s : Sample) : Nat :=
  max (Value.entriesDepth s.getters) (Value.entriesDepth s.fields)

theorem Sample.ofNode?_readAt {s : Sample} (hs : s.Storable) {level : Nat}
    (hlevel : level + 2 < maxLevel) :
    Sample.ofNode? .json (readAt level s.toNode) =
      if level + 2 + s.depth < maxLevel then some s else Option.none := by
  obtain ⟨f, hf, hlookup⟩ :=
    exists_fields .json sampleFields s.toNode rfl rfl (by decide) (Nat.lt_of_succ_lt hlevel)
  have hgetters := samples?_readAt hs.getters
    (fun e he => hs.values e (List.mem_append_left _ he)) hlevel
  have hfields := samples?_readAt hs.fields
    (fun e he => hs.values e (List.mem_append_right _ he)) hlevel
  simp only [List.forall_mem_cons] at hlookup
  rw [Sample.ofNode?, hf]
  simp only [Fields.withDefault, hlookup, hgetters, hfields, Option.bind_eq_bind, Option.bind_some]
  exact Data.bind_ite_some (by rw [Sample.depth]; omega) Sample.mk s.getters s.fields

theorem HostClass.ofNode?_readAt {c : HostClass} (hc : c.sample.Storable) {level : Nat}
    (hlevel : level + 3 < maxLevel) :
    HostClass.ofNode? .json (readAt level c.toNode) =
      if level + 3 + c.sample.depth < maxLevel then some c else none := by
  obtain ⟨f, hf, hlookup⟩ :=
    exists_fields .json classFields c.toNode rfl rfl (by decide)
      (show level + 1 < maxLevel by omega)
  have hsupertypes : list? text? (readAt (level + 1) (.list (c.supertypes.map .text))) =
      some c.supertypes := by
    rw [Json.readAt_list_map (by omega)]
    exact list?_map fun s _ => rfl
  have hattributes : list? (Attribute.ofNode? .json)
      (readAt (level + 1) (.list (c.attributes.map Attribute.toNode))) = some c.attributes := by
    rw [Json.readAt_list_map (by omega)]
    exact list?_map fun a _ => a.ofNode?_readAt hlevel
  have hchildren : list? (ChildSlot.ofNode? .json)
      (readAt (level + 1) (.list (c.children.map ChildSlot.toNode))) = some c.children := by
    rw [Json.readAt_list_map (by omega)]
    exact list?_map fun s _ => s.ofNode?_readAt hlevel
  have hsample := Sample.ofNode?_readAt hc hlevel
  simp only [List.forall_mem_cons] at hlookup
  rw [HostClass.ofNode?, hf]
  simp only [Fields.required, Fields.withDefault, hlookup, Json.readAt_text, Json.readAt_bool,
    text?, bool?, nullable?_optionalText, hsupertypes, hattributes, hchildren, hsample,
    Option.bind_eq_bind, Option.bind_some]
  exact Option.map_eq_bind.symm.trans
    (Data.map_ite_some (by omega) (fun s => { c with sample := s }) c.sample)

/-! ## 4. Documents without fractions -/

theorem plain_optionalText (o : Option String) : Plain (optionalText o) := by
  cases o with
  | none => exact .null
  | some s => exact .text s

theorem plain_list_map {α : Type} {f : α → Node} {items : List α}
    (hitems : ∀ a ∈ items, Plain (f a)) : Plain (.list (items.map f)) :=
  .list (List.forall_mem_map.2 hitems)

theorem Attribute.plain_toNode (a : Attribute) : Plain a.toNode :=
  .table (by simp [Plain.text, Plain.bool])

theorem ChildSlot.plain_toNode (c : ChildSlot) : Plain c.toNode := .table (by simp [Plain.text])

theorem EntryPoint.plain_toNode (e : EntryPoint) : Plain e.toNode := .table (by simp [Plain.text])

theorem Sample.Storable.plain_toNode {s : Sample} (hs : s.Storable) : Plain s.toNode := by
  have hgetters : Plain (samplesNode s.getters) :=
    Data.plain_toEntries fun e he => (hs.values e (List.mem_append_left _ he)).plain
  have hfields : Plain (samplesNode s.fields) :=
    Data.plain_toEntries fun e he => (hs.values e (List.mem_append_right _ he)).plain
  exact .table (by simp [hgetters, hfields])

theorem HostClass.plain_toNode {c : HostClass} (hc : c.sample.Storable) : Plain c.toNode := by
  have hsupertypes : Plain (.list (c.supertypes.map .text)) := plain_list_map fun s _ => .text s
  have hattributes : Plain (.list (c.attributes.map Attribute.toNode)) :=
    plain_list_map fun a _ => a.plain_toNode
  have hchildren : Plain (.list (c.children.map ChildSlot.toNode)) :=
    plain_list_map fun s _ => s.plain_toNode
  exact .table (by
    simp [Plain.text, Plain.bool, plain_optionalText, hsupertypes, hattributes, hchildren,
      hc.plain_toNode])

theorem Settings.plain_toNode {s : Settings} (hs : s.indent < 2 ^ 64) : Plain s.toNode := by
  have hindent : Plain (.int s.indent) := .int (by omega)
  have hentry : Plain (s.entry.elim .null EntryPoint.toNode) := by
    cases s.entry with
    | none => exact .null
    | some e => exact e.plain_toNode
  rw [Settings.toNode_eq]
  exact .table (by simp [Plain.text, hindent, hentry])

/-! ## 5. Manifests -/

/-- A manifest can be written: the indentation is a machine word, and what was observed on the
instances has no fractions. -/
structure Manifest.Storable (m : Manifest) : Prop where
  indent : m.settings.indent < 2 ^ 64
  samples : ∀ c ∈ m.classes, c.sample.Storable

theorem Manifest.Storable.plain_toNode {m : Manifest} (hm : m.Storable) : Plain m.toNode := by
  have hsettings : Plain m.settings.toNode := Settings.plain_toNode hm.indent
  have hclasses : Plain (.list (m.classes.map HostClass.toNode)) :=
    plain_list_map fun c hc => HostClass.plain_toNode (hm.samples c hc)
  exact .table (by simp [hsettings, hclasses])

/-- The level at which sampled values stand in the document of a manifest: in a table of a sample
of a class in the list of the classes. -/
def sampledLevel : Nat := 5

/-- No sampled value is nested more deeply than is read. -/
def Manifest.Shallow (m : Manifest) : Prop :=
  ∀ c ∈ m.classes, sampledLevel + c.sample.depth < maxLevel

instance (m : Manifest) : Decidable m.Shallow := inferInstanceAs (Decidable (∀ c ∈ m.classes, _))

theorem Manifest.ofNode?_readAt {m : Manifest} (hm : m.Storable) :
    Manifest.ofNode? .json (readAt 0 m.toNode) = if m.Shallow then some m else none := by
  obtain ⟨f, hf, hlookup⟩ :=
    exists_fields .json manifestFields m.toNode rfl rfl (by decide)
      (show 0 + 1 < maxLevel by decide)
  have hsettings : Settings.ofNode? .json (readAt 1 m.settings.toNode) = some m.settings :=
    Settings.ofNode?_readAt hm.indent (by decide)
  have hclasses : list? (HostClass.ofNode? .json)
      (readAt 1 (.list (m.classes.map HostClass.toNode))) =
      if m.Shallow then some m.classes else none := by
    rw [Json.readAt_list_map (by decide)]
    exact list?_map_ite fun c hc => HostClass.ofNode?_readAt (hm.samples c hc) (by decide)
  simp only [List.forall_mem_cons] at hlookup
  rw [Manifest.ofNode?, hf]
  simp only [Fields.withDefault, hlookup, hsettings, hclasses, Option.bind_eq_bind,
    Option.bind_some]
  exact Option.map_eq_bind.symm.trans
    (Data.map_ite_some Iff.rfl (fun classes => { m with classes := classes }) m.classes)

/-- **What is read of the text of a manifest**: the manifest itself, unless one of its sampled
values is nested more deeply than is read. -/
theorem Manifest.ofJson_toJson {m : Manifest} (hm : m.Storable) :
    Manifest.ofJson m.toJson = if m.Shallow then .ok m else .error (.malformed .json) := by
  rw [Manifest.ofJson, Manifest.toJson, Json.read?_text hm.plain_toNode, Option.bind_some,
    Manifest.ofNode?_readAt hm]
  by_cases hshallow : m.Shallow
  · rw [if_pos hshallow, if_pos hshallow]
  · rw [if_neg hshallow, if_neg hshallow]

/-- `n` lists in one another. -/
def nest : Nat → Value
  | 0 => .null
  | n + 1 => .list [nest n]

theorem depth_nest (n : Nat) : (nest n).depth = n := by
  induction n with
  | zero => rfl
  | succ n ih => rw [nest, Value.depth, Value.itemsDepth, Value.itemsDepth, ih, Nat.max_zero]

theorem storable_nest (n : Nat) : (nest n).Storable := by
  induction n with
  | zero => exact .null
  | succ n ih => exact .list (List.forall_mem_singleton.2 ih)

/-- What was observed on a lodge: characters that are escaped, the whole numbers of 64 bits at both
ends, and `n` lists in one another. -/
def lodgeSample (n : Nat) : Sample where
  getters := [("getDepth", .int (-(2 ^ 63))), ("getHeight", .int (2 ^ 64 - 1)),
    ("getNote", .text "\x01\n\t\"\\ ü €")]
  fields := [("\"", .table [("", .bool true), ("a b", .list [.null, .text ""])]), ("nest", nest n)]

/-- A lodge on an estate. -/
def lodge (n : Nat) : Manifest where
  settings := { Settings.default with
    outputDir := "out/\"a\"\\b", entry := some ⟨"estate", "Lodge"⟩ }
  classes := [
    .plain "house" "Estate",
    { HostClass.plain "house" "Lodge" with
      enclosing := some "Estate", supertypes := ["Hut", "java.lang.Object"], isAbstract := true,
      defaultConstructible := false, element := some "lodge",
      attributes := [⟨"setName", "String", false, true, false⟩,
        ⟨"setNote", "Tone", true, false, true⟩],
      children := [⟨"setRooms", "java.util.List<Room>"⟩],
      sample := lodgeSample n }]

theorem storable_lodgeSample (n : Nat) : (lodgeSample n).Storable where
  getters := Data.ordered_of_keys
    (show ["getDepth", "getHeight", "getNote"].Pairwise (· < ·) by decide)
  fields := Data.ordered_of_keys (show ["\"", "nest"].Pairwise (· < ·) by decide)
  values := by
    have hlist : (Value.list [.null, .text ""]).Storable :=
      .list (by simp [Value.Storable.null, Value.Storable.text])
    have htable : (Value.table [("", .bool true), ("a b", .list [.null, .text ""])]).Storable :=
      .table (Data.ordered_of_keys (show ["", "a b"].Pairwise (· < ·) by decide))
        (by simp [Value.Storable.bool, hlist])
    have hdepth : (Value.int (-(2 ^ 63))).Storable := .int (by decide)
    have hheight : (Value.int (2 ^ 64 - 1)).Storable := .int (by decide)
    intro e he
    simp only [lodgeSample, List.cons_append, List.nil_append, List.mem_cons, List.not_mem_nil,
      or_false] at he
    rcases he with rfl | rfl | rfl | rfl | rfl
    · exact hdepth
    · exact hheight
    · exact .text _
    · exact htable
    · exact storable_nest n

theorem storable_lodge (n : Nat) : (lodge n).Storable where
  indent := by simp [lodge, Settings.default]
  samples := by
    have hestate : Sample.none.Storable := ⟨.nil, .nil, List.forall_mem_nil _⟩
    exact List.forall_mem_cons.2 ⟨hestate, List.forall_mem_singleton.2 (storable_lodgeSample n)⟩

theorem shallow_lodge_iff (n : Nat) : (lodge n).Shallow ↔ n < 123 := by
  have hestate : Sample.none.depth = 0 := rfl
  have hlodge : (lodgeSample n).depth = max 2 n := by
    simp [lodgeSample, Sample.depth, Value.entriesDepth, Value.itemsDepth, Value.depth, depth_nest]
  rw [Manifest.Shallow, lodge, List.forall_mem_cons, List.forall_mem_singleton, HostClass.plain,
    hestate, hlodge, sampledLevel, maxLevel]
  omega

/-- Down to the last level a lodge is read as it was written; below, not at all. -/
theorem lodge_read_back :
    (lodge 122).Storable ∧ Manifest.ofJson (lodge 122).toJson = .ok (lodge 122) ∧
      Manifest.ofJson (lodge 123).toJson = .error (.malformed .json) := by
  refine ⟨storable_lodge 122, ?_, ?_⟩
  · rw [Manifest.ofJson_toJson (storable_lodge 122), if_pos]
    exact (shallow_lodge_iff 122).2 (by decide)
  · rw [Manifest.ofJson_toJson (storable_lodge 123), if_neg]
    exact mt (shallow_lodge_iff 123).1 (by decide)

end BuilderGen.Schema
