import Roster.Config.Codec
import Roster.Proofs.Document.Json

/-!
# Settings survive their documents

What a settings type writes, it reads: fields are found under the names under which they were
written (`Node.fields?_ofFields`), and each value is read by the inverse of what wrote it. The
numbers of settings that were read are within their widths (`RoutingConfig.fits_of_ofNode?`), so
settings that were read once can be written and read again (`RoutingConfig.codec_exact`).
-/

namespace Roster.Document

variable {α β : Type}

/-! ## Values -/

@[simp] theorem Node.text?_ofText (s : String) : (Node.ofText s).text? = some s := rfl

theorem Node.natUpTo?_integer {n bound : Nat} (h : n ≤ bound) :
    (Node.integer n).natUpTo? bound = some n := by
  rw [natUpTo?, if_pos ⟨Int.natCast_nonneg n, Int.ofNat_le.mpr h⟩, Int.toNat_natCast]

theorem Node.le_of_natUpTo? {node : Node} {n bound : Nat} (h : node.natUpTo? bound = some n) :
    n ≤ bound := by
  cases node with
  | integer m =>
    rw [natUpTo?] at h
    split at h
    · next hm =>
      have := Option.some.inj h
      omega
    · cases h
  | _ => cases h

theorem mapM_map_eq_some {read : β → Option α} {write : α → β}
    (h : ∀ a, read (write a) = some a) (items : List α) :
    (items.map write).mapM read = some items := by
  induction items with
  | nil => rfl
  | cons a rest ih => rw [List.map_cons, List.mapM_cons, h, ih]; rfl

theorem Node.listOf?_list {read : Node → Option α} {write : α → Node}
    (h : ∀ a, read (write a) = some a) (items : List α) :
    (Node.list (items.map write)).listOf? read = some items :=
  mapM_map_eq_some h items

theorem Node.tableOf?_ofFields {read : Node → Option α} {write : α → Node}
    (h : ∀ a, read (write a) = some a) (t : Table α) :
    (Node.ofFields (t.entries.map fun e => (e.1, write e.2))).tableOf? read = some t := by
  rw [ofFields, tableOf?, List.map_map, mapM_map_eq_some (fun e => ?_), Option.map_some,
    Table.ofList_entries]
  show (read (write e.2)).map (fun a => (e.1, a)) = some e
  rw [h]
  rfl

theorem Node.choose?_ofText (c : Convention) {alternatives : List (String × α)} {name : String}
    {a : α} (h : alternatives.lookup name = some a) :
    (Node.ofText name).choose? c alternatives = some a := by
  obtain ⟨earlier, later, hsplit, _⟩ := List.lookup_eq_some_iff.mp h
  have hname : name ∈ alternatives.map Prod.fst := by
    rw [hsplit, List.map_append]
    exact List.mem_append_right _ List.mem_cons_self
  rw [choose?, ofText, choice?, if_pos hname, Option.bind_some, h]

/-! ## Fields -/

theorem valueOf?_map (fields : List (String × Node)) (name : String) :
    valueOf? name (fields.map fun f => (some f.1, f.2)) = fields.lookup name := by
  induction fields with
  | nil => rfl
  | cons f rest ih =>
    rw [List.map_cons, valueOf?, List.find?_cons, List.lookup_cons]
    by_cases h : name = f.1
    · simp [h]
    · have h' : (some f.1 == some name) = false := beq_eq_false_iff_ne.mpr fun heq =>
        h (Option.some.inj heq).symm
      rw [h', beq_eq_false_iff_ne.mpr h]
      exact ih

/-- Fields that are written under different names are found under their names. -/
theorem Node.fields?_ofFields (c : Convention) (names : List String)
    {fields : List (String × Node)} (h : (fields.map Prod.fst).Nodup) :
    (Node.ofFields fields).fields? c names =
      some ⟨true, names.map fun n => (n, fields.lookup n)⟩ := by
  have honce (name : String) :
      (fields.map fun f => (some f.1, f.2)).countP (·.1 == some name) ≤ 1 := by
    have hcount := List.nodup_iff_count.mp h name
    rw [List.count, List.countP_map] at hcount
    rw [List.countP_map]
    refine Nat.le_trans (Nat.le_of_eq ?_) hcount
    exact List.countP_congr fun f _ => by simp
  have hnamed : wellNamed names (fields.map fun f => (some f.1, f.2)) = true := by
    rw [wellNamed, Bool.and_eq_true, List.all_eq_true, List.all_eq_true]
    refine ⟨fun field hfield => ?_, fun name _ => decide_eq_true (honce name)⟩
    obtain ⟨f, _, rfl⟩ := List.mem_map.mp hfield
    rfl
  rw [ofFields, fields?, if_pos hnamed]
  simp only [valueOf?_map]

namespace Fields

variable {f : Fields} {name : String} {v : Node} {read : Node → Option α} {fallback : α}

theorem defaulted_of_value? (h : f.value? name = some v) :
    f.defaulted name fallback read = read v := by
  rw [defaulted, h]

theorem optional_of_value? {o : Option String} (h : f.value? name = some (Node.ofText? o)) :
    f.optional name Node.text? = some o := by
  rw [optional, h]
  cases o <;> rfl

/-- What holds of the default and of what is read holds of the field. -/
theorem of_defaulted {motive : α → Prop} {a : α} (h : f.defaulted name fallback read = some a)
    (hfallback : motive fallback) (hread : ∀ node, read node = some a → motive a) : motive a := by
  unfold defaulted at h
  split at h
  · next node _ => exact hread node h
  · exact Option.some.inj h ▸ hfallback

end Fields

end Roster.Document

namespace Roster

open Document

/-! ## The parts of the configuration -/

variable (conv : Convention)

theorem MissingKey.ofNode?_toNode (m : MissingKey) : ofNode? conv m.toNode = some m := by
  cases m <;> rw [ofNode?, toNode, Node.fields?_ofFields _ _ (by simp)] <;> rfl

theorem Backend.lookup_names (b : Backend) : names.lookup b.name = some b := by
  cases b <;> rfl

theorem LogFormat.lookup_names (f : LogFormat) : names.lookup f.name = some f := by
  cases f <;> rfl

theorem RegistryConfig.ofNode?_toNode {c : RegistryConfig} (h : c.Fits) :
    ofNode? conv c.toNode = some c := by
  have haliases := Node.tableOf?_ofFields Node.text?_ofText c.aliases
  have hservices :=
    Node.tableOf?_ofFields (Node.listOf?_list Node.text?_ofText) c.services
  rw [ofNode?, toNode, Node.fields?_ofFields _ _ (by simp)]
  simp only [bind, Option.bind_some]
  rw [Fields.defaulted_of_value? (v := .ofText c.backend.name) rfl,
    Node.choose?_ofText conv (Backend.lookup_names c.backend), Option.bind_some,
    Fields.optional_of_value? (o := c.address) rfl, Option.bind_some,
    Fields.optional_of_value? (o := c.datacenter) rfl, Option.bind_some,
    Fields.defaulted_of_value? rfl, haliases, Option.bind_some,
    Fields.defaulted_of_value? rfl, Node.natUpTo?_integer h.1, Option.bind_some,
    Fields.defaulted_of_value? rfl, Node.natUpTo?_integer h.2, Option.bind_some,
    Fields.optional_of_value? (o := c.path) rfl, Option.bind_some,
    Fields.defaulted_of_value? (v := .bool c.watch) rfl, Node.bool?, Option.bind_some,
    Fields.defaulted_of_value? rfl, hservices]
  rfl

theorem ResolverConfig.ofNode?_toNode (c : ResolverConfig) : ofNode? conv c.toNode = some c := by
  rw [ofNode?, toNode, Node.fields?_ofFields _ _ (by simp)]
  rfl

theorem BalancerConfig.ofNode?_toNode {c : BalancerConfig} (h : c.Fits) :
    ofNode? conv c.toNode = some c := by
  rw [ofNode?, toNode, Node.fields?_ofFields _ _ (by simp)]
  simp only [bind, Option.bind_some]
  rw [Fields.defaulted_of_value? (v := .ofText c.policy) rfl, Node.text?_ofText,
    Option.bind_some, Fields.defaulted_of_value? rfl, Node.natUpTo?_integer h, Option.bind_some,
    Fields.defaulted_of_value? rfl, MissingKey.ofNode?_toNode]
  rfl

theorem LogConfig.ofNode?_toNode (c : LogConfig) : ofNode? conv c.toNode = some c := by
  rw [ofNode?, toNode, Node.fields?_ofFields _ _ (by simp)]
  simp only [bind, Option.bind_some]
  rw [Fields.defaulted_of_value? (v := .ofText c.level) rfl, Node.text?_ofText,
    Option.bind_some, Fields.defaulted_of_value? (v := .ofText c.format.name) rfl,
    Node.choose?_ofText conv (LogFormat.lookup_names c.format)]
  rfl

theorem RoutingConfig.ofNode?_toNode {c : RoutingConfig} (h : c.Fits) :
    ofNode? conv c.toNode = some c := by
  rw [ofNode?, toNode, Node.fields?_ofFields _ _ (by simp)]
  simp only [bind, Option.bind_some]
  rw [Fields.defaulted_of_value? rfl, RegistryConfig.ofNode?_toNode conv h.1, Option.bind_some,
    Fields.defaulted_of_value? rfl, ResolverConfig.ofNode?_toNode, Option.bind_some,
    Fields.defaulted_of_value? rfl, BalancerConfig.ofNode?_toNode conv h.2, Option.bind_some,
    Fields.defaulted_of_value? rfl, LogConfig.ofNode?_toNode]
  rfl

/-! ## What is read fits -/

theorem RegistryConfig.fits_of_ofNode? {node : Node} {c : RegistryConfig}
    (h : ofNode? conv node = some c) : c.Fits := by
  simp only [ofNode?, Option.bind_eq_bind, Option.bind_eq_some_iff, Option.pure_def] at h
  obtain ⟨f, _, _, _, _, _, _, _, _, _, secs, hsecs, buffer, hbuffer, _, _, _, _, _, _, heq⟩ := h
  obtain rfl := Option.some.inj heq
  have hnumber {f : Fields} {name : String} {fallback n : Nat} (hfallback : fallback ≤ maxWord64)
      (hread : f.defaulted name fallback (Node.natUpTo? maxWord64) = some n) : n ≤ maxWord64 :=
    Fields.of_defaulted (motive := (· ≤ maxWord64)) hread hfallback fun _ => Node.le_of_natUpTo?
  exact ⟨hnumber (by decide) hsecs, hnumber (by decide) hbuffer⟩

theorem BalancerConfig.fits_of_ofNode? {node : Node} {c : BalancerConfig}
    (h : ofNode? conv node = some c) : c.Fits := by
  simp only [ofNode?, Option.bind_eq_bind, Option.bind_eq_some_iff, Option.pure_def] at h
  obtain ⟨f, _, _, _, replicas, hreplicas, _, _, heq⟩ := h
  obtain rfl := Option.some.inj heq
  exact Fields.of_defaulted (motive := (· ≤ maxWord32)) hreplicas (by decide) fun _ =>
    Node.le_of_natUpTo?

theorem RoutingConfig.fits_of_ofNode? {node : Node} {c : RoutingConfig}
    (h : ofNode? conv node = some c) : c.Fits := by
  simp only [ofNode?, Option.bind_eq_bind, Option.bind_eq_some_iff, Option.pure_def] at h
  obtain ⟨f, _, registry, hregistry, _, _, balancer, hbalancer, _, _, heq⟩ := h
  obtain rfl := Option.some.inj heq
  constructor
  · exact Fields.of_defaulted hregistry (by decide) fun _ => RegistryConfig.fits_of_ofNode? conv
  · exact Fields.of_defaulted hbalancer (by decide) fun _ => BalancerConfig.fits_of_ofNode? conv

/-! ## Texts -/

namespace RoutingConfig

def ofJson? (text : String) : Option RoutingConfig :=
  (Json.read? text).bind (ofNode? Json.convention)

def toJson (c : RoutingConfig) : String := String.ofList (Json.write c.toNode)

theorem isPlain_toNode (c : RoutingConfig) : Json.isPlain c.toNode = true := by
  have haliases : Json.isPlain (.ofFields (c.registry.aliases.entries.map fun e =>
      (e.1, .ofText e.2))) = true :=
    Json.isPlain_ofFields (List.forall_mem_map.mpr fun _ _ => rfl)
  have hservices : Json.isPlain (.ofFields (c.registry.services.entries.map fun e =>
      (e.1, .list (e.2.map .ofText)))) = true :=
    Json.isPlain_ofFields (List.forall_mem_map.mpr fun _ _ =>
      Json.arePlain_iff.mpr (List.forall_mem_map.mpr fun _ _ => rfl))
  have hinteger (n : Nat) : Json.isPlain (.integer n) = true :=
    decide_eq_true (Int.natCast_nonneg n)
  have htext (s : String) : Json.isPlain (.ofText s) = true := rfl
  have hmissing : Json.isPlain c.balancer.missingKey.toNode = true := by
    cases c.balancer.missingKey <;> rfl
  have hregistry : Json.isPlain c.registry.toNode = true :=
    Json.isPlain_ofFields (by
      simp [htext, haliases, hservices, Json.isPlain_ofText?, Json.isPlain])
  have hresolver : Json.isPlain c.resolver.toNode = true := rfl
  have hbalancer : Json.isPlain c.balancer.toNode = true :=
    Json.isPlain_ofFields (by simp [htext, hinteger, hmissing])
  have hlogging : Json.isPlain c.logging.toNode = true := rfl
  exact Json.isPlain_ofFields (by simp [hregistry, hresolver, hbalancer, hlogging])

/-- What was written is read back, and so is every other text of the same node. Whatever text is
read, its settings can be written and read back: defaults that were filled in, names that were
skipped and fields that were listed without names make no difference. -/
theorem codec_exact :
    (∀ c : RoutingConfig, c.Fits → ofJson? c.toJson = some c) ∧
    (∀ (c : RoutingConfig) (text : String), c.Fits → Json.read? text = some c.toNode →
      ofJson? text = some c) ∧
    ∀ (text : String) (c : RoutingConfig), ofJson? text = some c →
      c.Fits ∧ ofJson? c.toJson = some c := by
  have hread (c : RoutingConfig) (text : String) (h : c.Fits)
      (htext : Json.read? text = some c.toNode) : ofJson? text = some c := by
    rw [ofJson?, htext, Option.bind_some, ofNode?_toNode _ h]
  have hwritten (c : RoutingConfig) (h : c.Fits) : ofJson? c.toJson = some c :=
    hread c c.toJson h (Json.read?_write (isPlain_toNode c))
  refine ⟨hwritten, hread, fun text c htext => ?_⟩
  obtain ⟨node, _, hnode⟩ := Option.bind_eq_some_iff.mp htext
  have hfits := fits_of_ofNode? _ hnode
  exact ⟨hfits, hwritten c hfits⟩

/-- A list of parts without names, of which the last is left out, and a policy without a key. -/
theorem codec_exact_reject :
    let aliases := "\x7b\"a\":\"x\",\"a\":\"\\u00e9\\n\"\x7d"
    let registry := "\x7b\"path\":\"r.json\",\"aliases\":" ++ aliases ++ "\x7d"
    let balancer := "[\"shard\", 0, \x7b\"policy\":\"reject\",\"key\":null,\"more\":1e3\x7d]"
    let text := "[" ++ registry ++ ",\x7b\x7d," ++ balancer ++ "]"
    let c : RoutingConfig :=
      { registry := { path := some "r.json", aliases := Table.empty.set "a" "é\n" }
        balancer := { replicas := 0, missingKey := .reject } }
    c.Fits ∧ ofJson? text = some c ∧ ofJson? c.toJson = some c := by
  intro aliases registry balancer text c
  have hread : ofJson? text = some c := by decide +kernel
  obtain ⟨hfits, hagain⟩ := codec_exact.2.2 text c hread
  exact ⟨hfits, hread, hagain⟩

end RoutingConfig

end Roster
