import OpenBadges.Http.Client
import OpenBadges.Proofs.Rereading
import OpenBadges.View.Bootstrap
import OpenBadges.View.Message
import OpenBadges.View.Panel

/-!
# The documents of the client

The client reads and writes six kinds of documents: contexts of requests, what the
page brings along, configurations, panels, fields of forms and messages. Each of
them may leave fields out, have fields that nobody knows, or be a list in place of
an object; what is written is always the object with all fields. Whatever was read
from such a document is read again from the one that is written for it.

Most values are reread whether they were ever read or not, and so are menus, by
induction over the entries below an entry. Where JSON values are held, in items and
in partial updates, these have to be canonical, which they are if they were read.
-/

namespace OpenBadges

open Decoder

/-! ## Plain values -/

@[simp] theorem Status.decode_ofJson (s : Status) : decode (.ofJson s.encode) = some s := by
  have hlt : s.toNat < 65536 := s.toNat_lt
  simp [decode, encode, Json.int, Document.ofJson, Decoder.nat]
  omega

@[simp] theorem Method.decode_ofJson (m : Method) : decode (.ofJson m.encode) = some m :=
  variant_ofJson (fun m => by cases m <;> rfl) m

@[simp] theorem FormType.decode_ofJson (t : FormType) : decode (.ofJson t.encode) = some t :=
  variant_ofJson (fun t => by cases t <;> rfl) t

@[simp] theorem FieldKind.decode_ofJson (k : FieldKind) : decode (.ofJson k.encode) = some k :=
  variant_ofJson (fun k => by cases k <;> rfl) k

@[simp] theorem MessageKind.variant_ofJson (k : MessageKind) :
    variant ofText? (.ofJson (.str k.text)) = some k :=
  Decoder.variant_ofJson (fun k => by cases k <;> rfl) k

/-! ## Records without JSON values -/

theorem Message.decode_ofJson (m : Message) : decode (.ofJson m.encode) = some m := by
  rw [decode, encode]
  refine bind_record_ofJson fun field hfield => ?_
  simp only [List.forall_mem_cons] at hfield
  obtain ⟨hkind, hcontent, -⟩ := hfield
  simp [hkind, hcontent]

theorem FieldSpec.decode_ofJson (f : FieldSpec) : decode (.ofJson f.encode) = some f := by
  rw [decode, encode]
  refine bind_record_ofJson fun field hfield => ?_
  simp only [List.forall_mem_cons] at hfield
  obtain ⟨hname, hkind, hlabel, hrequired, hfilename, -⟩ := hfield
  simp [hname, hkind, hlabel, hrequired, hfilename]

theorem ClientConfig.decode_ofJson (c : ClientConfig) : decode (.ofJson c.encode) = some c := by
  rw [decode, encode]
  refine bind_record_ofJson fun field hfield => ?_
  simp only [List.forall_mem_cons] at hfield
  obtain ⟨hbase, hcookie, htoken, hagent, -⟩ := hfield
  simp [hbase, hcookie, htoken, hagent]

theorem UserProfile.decode_ofJson (u : UserProfile) : decode (.ofJson u.encode) = some u := by
  rw [decode, encode]
  refine bind_record_ofJson fun field hfield => ?_
  simp only [List.forall_mem_cons] at hfield
  obtain ⟨husername, hfirst, hlast, hemail, hstaff, -⟩ := hfield
  simp [husername, hfirst, hlast, hemail, hstaff]

/-! ## Menus -/

namespace MenuItem

/-- An entry is read like any other record, and the entries below it like any other list. -/
theorem decode_eq (d : Document) : decode d = (do
    let field ← record fieldNames d
    let title ← required string (field "title")
    let url ← required string (field "url")
    let icon ← orNone string (field "icon")
    let children ← orDefault [] (list decode) (field "children")
    return ⟨title, url, icon, children⟩) := by
  rw [decode]
  split
  next hrecord => rw [hrecord]; rfl
  next field hrecord =>
    rw [hrecord]
    simp only [Option.bind_eq_bind, Option.bind_some]
    refine Option.bind_congr fun title _ => Option.bind_congr fun url _ =>
      Option.bind_congr fun icon _ => ?_
    split
    next hbelow => rw [hbelow]; rfl
    next items hbelow =>
      have hitems : (items.attach.mapM fun item => decode item.1) = items.mapM decode := by
        rw [List.mapM_subtype (g := decode) fun _ _ => rfl, List.unattach_attach]
      rw [hbelow, hitems]
      rfl
    next below hlist hbelow =>
      rw [hbelow]
      cases below with
      | arr items => exact absurd rfl (hlist items)
      | _ => rfl

theorem encode_eq (m : MenuItem) : m.encode = .ofFields [
    ("title", .str m.title),
    ("url", .str m.url),
    ("icon", .ofOption .str m.icon),
    ("children", .arr (m.children.map encode))] := by
  cases m
  simp [encode]

/-- **Any tree of entries is reread.** -/
theorem decode_ofJson : ∀ m : MenuItem, decode (.ofJson m.encode) = some m
  | ⟨title, url, icon, children⟩ => by
    have hchildren : list decode (.ofJson (.arr (children.map encode))) = some children :=
      list_ofJson fun child _ => decode_ofJson child
    rw [decode_eq, encode_eq]
    refine bind_record_ofJson fun field hfield => ?_
    simp only [List.forall_mem_cons] at hfield
    obtain ⟨htitle, hurl, hicon, hbelow, -⟩ := hfield
    simp [htitle, hurl, hicon, hbelow, hchildren]

end MenuItem

namespace Menus

@[simp] theorem decodeMenu_ofJson (m : Menu) : decodeMenu (.ofJson (encodeMenu m)) = some m :=
  list_ofJson fun item _ => item.decode_ofJson

theorem decode_ofJson (m : Menus) : decode (.ofJson m.encode) = some m := by
  have hsections : dict decodeMenu (.ofJson (.ofDict encodeMenu m.secondaryMenus)) =
      some m.secondaryMenus :=
    dict_ofJson fun e _ => decodeMenu_ofJson e.2
  rw [decode, encode]
  refine bind_record_ofJson fun field hfield => ?_
  simp only [List.forall_mem_cons] at hfield
  obtain ⟨htop, hrole, hsecondary, -⟩ := hfield
  simp [htop, hrole, hsecondary, hsections]

end Menus

/-! ## Records with JSON values -/

namespace PartialUpdate

/-- Its values are canonical. The value to set is not `null`, which stands for none at all. -/
structure Canonical (u : PartialUpdate) : Prop where
  searchValue : u.searchValue.Canonical
  updateValue : ∀ v, u.updateValue = some v → v.Canonical ∧ v ≠ .null

theorem canonical_of_decode {d : Document} {u : PartialUpdate} (hu : decode d = some u) :
    u.Canonical := by
  simp only [decode, Option.bind_eq_bind, Option.bind_eq_some_iff] at hu
  obtain ⟨field, -, searchKey, -, searchValue, hsearch, updateKey, -, updateValue, hupdate,
    hmade⟩ := hu
  cases hmade
  constructor
  · obtain ⟨d, hd⟩ := exists_of_required hsearch
    exact Document.canonical_of_toJson? hd
  · intro v hv
    obtain ⟨d, hd, hread⟩ := exists_of_orNone hupdate hv
    exact ⟨Document.canonical_of_toJson? hread,
      fun hnull => hd (Document.eq_null_of_toJson? (hnull ▸ hread))⟩

theorem decode_ofJson {u : PartialUpdate} (h : u.Canonical) :
    decode (.ofJson u.encode) = some u := by
  have hsearched : json (.ofJson u.searchValue) = some u.searchValue :=
    Document.toJson?_ofJson h.searchValue
  have hupdated : optional json (.ofJson (.ofOption id u.updateValue)) = some u.updateValue := by
    refine optional_ofJson fun v hv => ?_
    obtain ⟨hv, hnull⟩ := h.updateValue v hv
    exact ⟨Document.toJson?_ofJson hv, hnull⟩
  rw [decode, encode]
  refine bind_record_ofJson fun field hfield => ?_
  simp only [List.forall_mem_cons] at hfield
  obtain ⟨hkey, hvalue, hset, hto, -⟩ := hfield
  simp [hkey, hvalue, hset, hto, hsearched, hupdated]

end PartialUpdate

namespace RequestContext

/-- If it is about one field of an item, that is canonical. -/
def Canonical (c : RequestContext) : Prop := ∀ u, c.partialUpdate = some u → u.Canonical

theorem canonical_of_decode {d : Document} {c : RequestContext} (hc : decode d = some c) :
    c.Canonical := by
  simp only [decode, Option.bind_eq_bind, Option.bind_eq_some_iff] at hc
  obtain ⟨field, -, url, -, method, -, statuses, -, collection, -, replaces, -, formId, -,
    update, hupdate, hmade⟩ := hc
  cases hmade
  intro u hu
  obtain ⟨d, -, hread⟩ := exists_of_orNone hupdate hu
  exact PartialUpdate.canonical_of_decode hread

theorem decode_ofJson {c : RequestContext} (h : c.Canonical) :
    decode (.ofJson c.encode) = some c := by
  have hstatuses : list Status.decode (.ofJson (.arr (c.successfulStatuses.map Status.encode))) =
      some c.successfulStatuses :=
    list_ofJson fun s _ => s.decode_ofJson
  have hupdated : optional PartialUpdate.decode
      (.ofJson (.ofOption PartialUpdate.encode c.partialUpdate)) = some c.partialUpdate :=
    optional_ofJson fun u hu => ⟨PartialUpdate.decode_ofJson (h u hu), Json.ofFields_ne_null _⟩
  rw [decode, encode]
  refine bind_record_ofJson fun field hfield => ?_
  simp only [List.forall_mem_cons] at hfield
  obtain ⟨hpath, hmethod, hcount, hkey, hreplace, hform, hpartial, -⟩ := hfield
  simp [hpath, hmethod, hcount, hkey, hreplace, hform, hpartial, hstatuses, hupdated]

end RequestContext

namespace Bootstrap

/-- All items that it brings along are canonical. -/
def Canonical (b : Bootstrap) : Prop := ∀ e ∈ b.initialData.entries, ∀ v ∈ e.2, v.Canonical

theorem rereads_items : Rereads (dict (list json)) (.ofDict Json.arr)
    fun m => ∀ e ∈ m.entries, ∀ v ∈ e.2, v.Canonical := by
  simpa using rereads_json.list.dict

theorem canonical_of_decode {d : Document} {b : Bootstrap} (hb : decode d = some b) :
    b.Canonical := by
  simp only [decode, Option.bind_eq_bind, Option.bind_eq_some_iff] at hb
  obtain ⟨field, -, initialData, hinitial, user, -, roleMenu, -, menus, -, hmade⟩ := hb
  cases hmade
  rcases exists_of_orDefault hinitial with rfl | ⟨d, hd⟩
  · exact fun e he => absurd he List.not_mem_nil
  · exact rereads_items.canonical_of_decode hd

theorem decode_ofJson {b : Bootstrap} (h : b.Canonical) : decode (.ofJson b.encode) = some b := by
  have hitems := rereads_items.decode_ofJson h
  have huser : optional UserProfile.decode (.ofJson (.ofOption UserProfile.encode b.user)) =
      some b.user :=
    optional_ofJson fun u _ => ⟨u.decode_ofJson, Json.ofFields_ne_null _⟩
  have hmenus : optional Menus.decode (.ofJson (.ofOption Menus.encode b.menus)) = some b.menus :=
    optional_ofJson fun m _ => ⟨m.decode_ofJson, Json.ofFields_ne_null _⟩
  rw [decode, encode]
  refine bind_record_ofJson fun field hfield => ?_
  simp only [List.forall_mem_cons] at hfield
  obtain ⟨hdata, hsigned, hrole, hreplaced, -⟩ := hfield
  simp [hdata, hsigned, hrole, hreplaced, hitems, huser, hmenus]

end Bootstrap

/-! ## Panels -/

namespace Panel

/-- The item that it is about, if there is one, is canonical. -/
def Canonical : Panel → Prop
  | detailView item => item.Canonical
  | createForm _ => True
  | editForm _ item => item.Canonical

@[simp] theorem variant_ofJson (k : PanelKind) :
    variant PanelKind.ofText? (.ofJson (.str k.text)) = some k :=
  Decoder.variant_ofJson (fun k => by cases k <;> rfl) k

/-- What was written as an object is read like a record. -/
theorem contentFields_ofJson (names : List String) (fs : List (String × Json)) :
    contentFields names (.ofJson (.ofFields fs)) = record names (.ofJson (.ofFields fs)) := rfl

theorem canonical_of_decodeContent {d : Document} {kind : PanelKind} {p : Panel}
    (h : decodeContent d kind = some p) : p.Canonical := by
  have hitem : ∀ {o item}, required json o = some item → item.Canonical := by
    intro o item hread
    obtain ⟨d, hd⟩ := exists_of_required hread
    exact Document.canonical_of_toJson? hd
  cases kind with
  | detailView =>
    simp only [decodeContent, Option.bind_eq_bind, Option.bind_eq_some_iff] at h
    obtain ⟨field, -, item, hread, hmade⟩ := h
    cases hmade
    exact hitem hread
  | createForm =>
    simp only [decodeContent, Option.bind_eq_bind, Option.bind_eq_some_iff] at h
    obtain ⟨field, -, formType, -, hmade⟩ := h
    cases hmade
    trivial
  | editForm =>
    simp only [decodeContent, Option.bind_eq_bind, Option.bind_eq_some_iff] at h
    obtain ⟨field, -, formType, -, item, hread, hmade⟩ := h
    cases hmade
    exact hitem hread

/-- Either form of a panel names a kind and gives its content. -/
theorem exists_decodeContent {d : Document} {p : Panel} (h : decode d = some p) :
    ∃ content kind, decodeContent content kind = some p := by
  unfold decode at h
  split at h
  next fs =>
    simp only [Option.bind_eq_bind, Option.bind_eq_some_iff] at h
    obtain ⟨field, -, kind, -, content, -, hcontent⟩ := h
    refine ⟨content, kind, ?_⟩
    split at hcontent
    · obtain ⟨_, -, hcontent⟩ := Option.bind_eq_some_iff.mp hcontent
      exact hcontent
    · exact hcontent
  next content =>
    obtain ⟨kind, -, hcontent⟩ := Option.bind_eq_some_iff.mp h
    exact ⟨content, kind, hcontent⟩
  next => cases h

theorem canonical_of_decode {d : Document} {p : Panel} (h : decode d = some p) :
    p.Canonical := by
  obtain ⟨content, kind, hcontent⟩ := exists_decodeContent h
  exact canonical_of_decodeContent hcontent

section Written

variable {p : Panel} (h : p.Canonical)
include h

theorem decodeContent_ofJson : decodeContent (.ofJson p.encodeContent) p.kind = some p := by
  cases p with
  | detailView item =>
    have hitem : json (.ofJson item) = some item := Document.toJson?_ofJson h
    rw [kind, decodeContent, encodeContent, contentFields_ofJson]
    refine bind_record_ofJson fun field hfield => ?_
    simp only [List.forall_mem_cons] at hfield
    simp [hfield, hitem]
  | createForm formType =>
    rw [kind, decodeContent, encodeContent, contentFields_ofJson]
    refine bind_record_ofJson fun field hfield => ?_
    simp only [List.forall_mem_cons] at hfield
    simp [hfield]
  | editForm formType item =>
    have hitem : json (.ofJson item) = some item := Document.toJson?_ofJson h
    rw [kind, decodeContent, encodeContent, contentFields_ofJson]
    refine bind_record_ofJson fun field hfield => ?_
    simp only [List.forall_mem_cons] at hfield
    simp [hfield, hitem]

theorem canonical_encodeContent : p.encodeContent.Canonical := by
  cases p with
  | detailView item => exact Json.canonical_ofFields (List.forall_mem_singleton.mpr h)
  | createForm formType =>
    exact Json.canonical_ofFields (List.forall_mem_singleton.mpr (.str formType.text))
  | editForm formType item =>
    exact Json.canonical_ofFields
      (List.forall_mem_cons.mpr ⟨.str formType.text, List.forall_mem_singleton.mpr h⟩)

theorem decode_ofJson : decode (.ofJson p.encode) = some p := by
  have hnodup : ["type", "content"].Nodup := by decide
  obtain ⟨es, hes, field, hfield, hall⟩ := @exists_fields_ofJson ["type", "content"]
    [("type", .str p.kind.text), ("content", p.encodeContent)] hnodup
  simp only [List.forall_mem_cons] at hall
  obtain ⟨htype, hcontent, -⟩ := hall
  -- content that comes before the kind has to be readable in every part
  have hreadable := Document.toJson?_ofJson (canonical_encodeContent h)
  rw [encode, hes]
  simp [decode, hfield, htype, hcontent, hreadable, decodeContent_ofJson h]

end Written

end Panel

/-! ## All documents -/

/--
**Whatever was read from a document is read again from the one that is written for it.**

Where a document holds JSON values, it is the canonical ones that can be read; all
others of its values can be read without exception.
-/
theorem documents_reread :
    Rereads RequestContext.decode RequestContext.encode RequestContext.Canonical ∧
    Rereads Bootstrap.decode Bootstrap.encode Bootstrap.Canonical ∧
    Rereads ClientConfig.decode ClientConfig.encode (fun _ => True) ∧
    Rereads Panel.decode Panel.encode Panel.Canonical ∧
    Rereads FieldSpec.decode FieldSpec.encode (fun _ => True) ∧
    Rereads Message.decode Message.encode (fun _ => True) :=
  ⟨.of RequestContext.canonical_of_decode RequestContext.decode_ofJson,
    .of Bootstrap.canonical_of_decode Bootstrap.decode_ofJson,
    .of_forall ClientConfig.decode_ofJson, .of Panel.canonical_of_decode Panel.decode_ofJson,
    .of_forall FieldSpec.decode_ofJson, .of_forall Message.decode_ofJson⟩

/-- A context as the list of its fields, with its partial update as a list as well. -/
def packedContext : Json :=
  .arr [.str "/badges/1", .str "PUT", .arr [.int 200, .int 202], .str "badges", .bool true, .null,
    .arr [.str "id", .obj [("name", .null), ("slug", .str "a")], .str "state", .null]]

def unpackedContext : RequestContext where
  actionUrl := "/badges/1"
  method := .put
  successfulStatuses := [200, 202]
  collection := "badges"
  replacesCollection := true
  partialUpdate := some ⟨"id", .obj [("name", .null), ("slug", .str "a")], "state", none⟩

/-- A page with a role menu of two levels; nobody knows the colour of its lower entry. -/
def packedPage : Json :=
  .arr [.obj [("badges", .arr [.obj [("id", .int 1)], .null])],
    .obj [("is_staff", .bool true), ("username", .str "jdoe")],
    .arr [.arr [.str "Staff", .str "/staff", .null,
      .arr [.obj [("colour", .str "red"), ("title", .str "Reports"), ("url", .str "/reports")]]]]]

def unpackedPage : Bootstrap where
  initialData := .ofList [("badges", [.obj [("id", .int 1)], .null])]
  user := some { username := "jdoe", isStaff := true }
  roleMenu := [⟨"Staff", "/staff", none, [⟨"Reports", "/reports", none, []⟩]⟩]

theorem packed_reread :
    (RequestContext.decode (.ofJson packedContext) = some unpackedContext ∧
      RequestContext.decode (.ofJson unpackedContext.encode) = some unpackedContext) ∧
    Bootstrap.decode (.ofJson packedPage) = some unpackedPage ∧
      Bootstrap.decode (.ofJson unpackedPage.encode) = some unpackedPage := by
  have hcontext : RequestContext.decode (.ofJson packedContext) = some unpackedContext := rfl
  have hpage : Bootstrap.decode (.ofJson packedPage) = some unpackedPage := by
    simp [packedPage, unpackedPage, Json.int, Json.ofFields, Entries.insert, Document.ofJson,
      Document.ofItems, Document.ofFields, Document.toJson?, Document.fieldValues?,
      Bootstrap.decode, UserProfile.decode, Menus.decodeMenu, MenuItem.decode_eq,
      MenuItem.fieldNames, record, fields, lookup, occurrences, required, orDefault, orNone,
      Decoder.optional, string, Decoder.bool, list, dict, json]
  exact ⟨⟨hcontext, documents_reread.1.reread hcontext⟩, hpage,
    documents_reread.2.1.reread hpage⟩

end OpenBadges
