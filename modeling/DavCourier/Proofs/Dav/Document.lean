import DavCourier.Dav.MultiStatus.Printer
import DavCourier.Dav.MultiStatus.Reader
import DavCourier.Proofs.Markup.Spelling
import DavCourier.Proofs.Text.Blank
import DavCourier.Proofs.Text.Numeral

/-!
# The document of a report

`rootNode m` is the tree that `render m` writes : it is what a reader makes of the bytes
(`read_render`). Below, `resourceOf?_responseNode` says what an entry is read as :
`Resource.readBack`, or nothing if it has no reference.
-/

namespace DavCourier.Dav

open Markup Fallible

namespace Resource

/-- A text that is not empty. -/
def nonEmpty (value : Option String) : Option String :=
  value.filter fun text => text ≠ ""

/-- What a reader sees of the entry in a rendered report : the reference without blanks around
it, and no property with an empty text. -/
def readBack (r : Resource) : Resource :=
  { r with
    href := Text.trim r.href
    contentType := nonEmpty r.contentType
    etag := nonEmpty r.etag
    creationDate := nonEmpty r.creationDate
    lastModified := nonEmpty r.lastModified }

end Resource

namespace MultiStatus

/-! ## The tree -/

/-- The declarations in force inside a rendered report. -/
def renderedScope : Scope :=
  ⟨Utf8.encodeString "D", Utf8.encodeString davSpace⟩ :: Scope.initial

/-- An element of a rendered report. -/
def node (name : String) (children : List Node) : Node :=
  .element ⟨name, some davSpace⟩ children

/-- The element of a property, if it has a value. -/
def propertyNodes (name : String) : Option String → List Node
  | some text => [node name (textNodes text)]
  | none => []

/-- The element of the type of a resource. -/
def typeNode (isCollection : Bool) : Node :=
  node "D:resourcetype" (if isCollection then [node "D:collection" []] else [])

/-- The status of the properties as a text. -/
def statusLine (status : UInt16) : String :=
  String.ofList ("HTTP/1.1 ".toList ++ Numeral.decimal status.toNat)

/-- The element of the status, unless it is zero. -/
def statusNodes (status : UInt16) : List Node :=
  if status = 0 then [] else [node "D:status" (textNodes (statusLine status))]

/-- The properties of an entry that are texts, by the names of their elements. -/
def properties (r : Resource) : List (String × Option String) :=
  [("D:getcontenttype", r.contentType), ("D:getetag", r.etag),
    ("D:creationdate", r.creationDate), ("D:getlastmodified", r.lastModified)]

/-- The elements of properties. -/
def propertiesNodes (ps : List (String × Option String)) : List Node :=
  ps.flatMap fun p => propertyNodes p.1 p.2

/-- The element of the properties of an entry. -/
def propNode (r : Resource) : Node :=
  node "D:prop" (propertiesNodes (properties r) ++ [typeNode r.isCollection])

/-- The element of an entry. -/
def responseNode (r : Resource) : Node :=
  node "D:response" <|
    [node "D:href" (textNodes r.href)]
      ++ [node "D:propstat" ([propNode r] ++ statusNodes r.status)]

/-- The element of a report. -/
def rootNode (m : MultiStatus) : Node :=
  node "D:multistatus" (m.entries.map responseNode)

/-! ## From the bytes to the tree -/

/-- The names in a rendered report. -/
def renderedNames : List String :=
  ["D:multistatus", "D:response", "D:href", "D:propstat", "D:prop", "D:getcontenttype",
    "D:getetag", "D:creationdate", "D:getlastmodified", "D:resourcetype", "D:collection",
    "D:status"]

theorem isNameIn_rendered : ∀ name ∈ renderedNames, IsNameIn renderedScope davSpace name := by
  decide

theorem encode_element (name : String) (content : List Char) :
    Utf8.encode (element name content) =
      0x3C :: (Utf8.encodeString name ++ [0x3E]) ++ (Utf8.encode content ++
        0x3C :: 0x2F :: (Utf8.encodeString name ++ [0x3E])) := by
  have hlt : String.utf8EncodeChar '<' = [0x3C] := rfl
  have hslash : String.utf8EncodeChar '/' = [0x2F] := rfl
  have hgt : String.utf8EncodeChar '>' = [0x3E] := rfl
  simp [element, Utf8.encodeString, hlt, hslash, hgt]

theorem spells_element {name : String} (hname : name ∈ renderedNames) {children : List Node}
    {content : List Char} (h : Spells renderedScope children (Utf8.encode content)) :
    Spells renderedScope [node name children] (Utf8.encode (element name content)) := by
  rw [encode_element, ← List.append_assoc]
  exact .element (isNameIn_rendered name hname) h

theorem spells_textElement {name : String} (hname : name ∈ renderedNames) (text : String) :
    Spells renderedScope [node name (textNodes text)] (Utf8.encode (textElement name text)) := by
  rw [textElement, encode_element]
  exact .textElement (isNameIn_rendered name hname) text

/-- A tag that closes itself, as the characters `cs`. -/
theorem spells_closed {name : String} (hname : name ∈ renderedNames) {cs : List Char}
    (hcs : cs = "<".toList ++ name.toList ++ "/>".toList) :
    Spells renderedScope [node name []] (Utf8.encode cs) := by
  have hlt : String.utf8EncodeChar '<' = [0x3C] := rfl
  have hslash : String.utf8EncodeChar '/' = [0x2F] := rfl
  have hgt : String.utf8EncodeChar '>' = [0x3E] := rfl
  have hbytes : Utf8.encode cs = 0x3C :: (Utf8.encodeString name ++ [0x2F, 0x3E]) := by
    rw [hcs]
    simp [Utf8.encodeString, hlt, hslash, hgt]
  rw [hbytes]
  exact .closed (isNameIn_rendered name hname)

theorem spells_append {ns ms : List Node} {cs ds : List Char}
    (h : Spells renderedScope ns (Utf8.encode cs))
    (h' : Spells renderedScope ms (Utf8.encode ds)) :
    Spells renderedScope (ns ++ ms) (Utf8.encode (cs ++ ds)) := by
  rw [Utf8.encode_append]
  exact h.append h'

theorem spells_property {name : String} (hname : name ∈ renderedNames)
    (value : Option String) : Spells renderedScope (propertyNodes name value)
      (Utf8.encode (property name value)) := by
  cases value with
  | none => exact .nil _
  | some text => exact spells_textElement hname text

theorem spells_type (isCollection : Bool) : Spells renderedScope [typeNode isCollection]
    (Utf8.encode (typeElement isCollection)) := by
  unfold typeNode typeElement
  cases isCollection with
  | false =>
    have htype : "D:resourcetype" ∈ renderedNames := by decide
    have hclosed : "<D:resourcetype/>".toList =
        "<".toList ++ "D:resourcetype".toList ++ "/>".toList := by decide
    exact spells_closed htype hclosed
  | true =>
    have htype : "D:resourcetype" ∈ renderedNames := by decide
    have hcollection : "D:collection" ∈ renderedNames := by decide
    rw [if_pos rfl, if_pos rfl]
    exact spells_element htype (spells_closed hcollection (by decide))

theorem toList_statusLine (status : UInt16) :
    (statusLine status).toList = "HTTP/1.1 ".toList ++ Numeral.decimal status.toNat :=
  String.toList_ofList

theorem escape_statusLine (status : UInt16) :
    Reference.escape (statusLine status).toList = (statusLine status).toList := by
  refine Reference.escape_eq_self fun c hc => ?_
  rw [toList_statusLine, List.mem_append] at hc
  rcases hc with hc | hc
  · have hword : ("HTTP/1.1 ".toList.all fun d => d ∉ Reference.escaped) = true := by decide
    simpa using List.all_eq_true.mp hword c hc
  · have hdigit := Numeral.isDigit_of_mem_decimal hc
    have hnone : Reference.escaped.any Char.isDigit = false := by decide
    intro hmem
    exact List.any_eq_false.mp hnone c hmem hdigit

theorem spells_status (status : UInt16) : Spells renderedScope (statusNodes status)
    (Utf8.encode (statusElement status)) := by
  unfold statusNodes statusElement
  split
  · exact .nil _
  · have hname : "D:status" ∈ renderedNames := by decide
    have h := spells_textElement hname (statusLine status)
    rw [textElement, escape_statusLine, toList_statusLine] at h
    exact h

theorem spells_prop (r : Resource) :
    Spells renderedScope [propNode r] (Utf8.encode (propElement r)) := by
  refine spells_element (by decide) (spells_append ?_ (spells_type _))
  have hnodes : propertiesNodes (properties r) =
      propertyNodes "D:getcontenttype" r.contentType ++ propertyNodes "D:getetag" r.etag
        ++ propertyNodes "D:creationdate" r.creationDate
        ++ propertyNodes "D:getlastmodified" r.lastModified := by
    simp [propertiesNodes, properties]
  rw [hnodes]
  exact spells_append (spells_append (spells_append (spells_property (by decide) _)
    (spells_property (by decide) _)) (spells_property (by decide) _))
    (spells_property (by decide) _)

theorem spells_response (r : Resource) :
    Spells renderedScope [responseNode r] (Utf8.encode (responseElement r)) :=
  spells_element (by decide) (spells_append (spells_textElement (by decide) _)
    (spells_element (by decide) (spells_append (spells_prop r) (spells_status _))))

/-- What the tag of the root holds. -/
def rootTag : Bytes :=
  Utf8.encodeString "D:multistatus xmlns:D=\"DAV:\""

/-- What stands before the entries. -/
def opening : String :=
  "<?xml version=\"1.0\" encoding=\"utf-8\"?><D:multistatus xmlns:D=\"DAV:\">"

theorem run_opening : Cutter.start.run (Utf8.encodeString opening) =
    .ok (Cutter.start, [.skipped, .tag rootTag]) := by
  decide +kernel

theorem ofTag_rootTag : OpenElement.ofTag Scope.initial rootTag =
    .ok ⟨Utf8.encodeString "D:multistatus", renderedScope⟩ := by
  have hfirst : attribute? (tagRest rootTag) =
      some (⟨Utf8.encodeString "xmlns:D", Utf8.encodeString davSpace⟩, []) := by decide
  unfold OpenElement.ofTag
  rw [attributes_eq_cons hfirst, attributes_nil]
  rfl

theorem spells_entries (rs : List Resource) :
    Spells renderedScope (rs.map responseNode) (Utf8.encode (rs.flatMap responseElement)) := by
  rw [Utf8.encode, List.flatMap_assoc]
  exact .flatMap fun r _ => spells_response r

/-- A document with this inside the root of a rendered report. -/
def documentAround (content : List Char) : List Char :=
  opening.toList ++ content ++ "</D:multistatus>".toList

/-- What spells nodes is read as these inside the root of a rendered report. -/
theorem read_documentAround {nodes : List Node} {content : List Char}
    (h : Spells renderedScope nodes (Utf8.encode content)) :
    Node.read (Utf8.encode (documentAround content)) = .ok (node "D:multistatus" nodes) := by
  have hname := isNameIn_rendered "D:multistatus" (by decide)
  have hopen : selfClosed? rootTag = none := by decide
  obtain ⟨pieces, hrun, hcontent⟩ := h
  have hend : Cutter.start.run (Utf8.encodeString "</D:multistatus>") =
      .ok (Cutter.start, [.endTag (Utf8.encodeString "D:multistatus")]) :=
    Cutter.run_endTag hname.bytes.quiet
  have hall := Cutter.run_append (Cutter.run_append run_opening hrun) hend
  have hroot := readPieces_root hopen ofTag_rootTag hname.tag_eq hname.bytes.endName_eq hcontent
  have hskip : Reading.stepPiece [] Builder.start (some .skipped) = .ok ([], Builder.start) := rfl
  have hpieces : [.skipped, .tag rootTag] ++ pieces ++
      [.endTag (Utf8.encodeString "D:multistatus")] ++ (none : Option Piece).toList =
        .skipped :: .tag rootTag :: (pieces ++ [.endTag (Utf8.encodeString "D:multistatus")]) := by
    simp
  have hbytes : Utf8.encode (documentAround content) = Utf8.encodeString opening ++
      Utf8.encode content ++ Utf8.encodeString "</D:multistatus>" := by
    rw [documentAround, Utf8.encode_append, Utf8.encode_append]
    rfl
  have hfinish : Cutter.start.finish = .ok none := rfl
  rw [hbytes, Node.read_of_run hall hfinish, hpieces, readPieces_cons, hskip, ok_bind, hroot]
  rfl

/-- The bytes of a rendered report are read as its tree. -/
theorem read_render (m : MultiStatus) :
    Node.read (Utf8.encodeString m.render) = .ok (rootNode m) := by
  have hchars : m.render.toList = documentAround (m.entries.flatMap responseElement) :=
    String.toList_ofList
  rw [Utf8.encodeString, hchars]
  exact read_documentAround (spells_entries m.entries)

/-! ## From the tree to the entries -/

theorem text?_node (name text : String) :
    (node name (textNodes text)).text? = if text = "" then none else some text := by
  unfold textNodes
  split
  · rfl
  · next hne =>
    have hcs : (node name [.text text]).children.flatMap Node.characters = text.toList := by
      simp [node, Node.children, Node.characters]
    unfold Node.text?
    rw [hcs]
    split
    · next hnil => exact absurd (String.toList_eq_nil_iff.mp hnil) hne
    · rw [String.ofList_toList]

theorem isNamed_node (name name' : String) (children : List Node) :
    Node.isNamed name (node name' children) = decide (name' = name) := rfl

theorem child?_node (name name' : String) (children : List Node) :
    (node name children).child? name' = children.find? (Node.isNamed name') := rfl

theorem find?_propertyNodes (name name' : String) (value : Option String) :
    (propertyNodes name' value).find? (Node.isNamed name) =
      if name' = name then value.map fun text => node name' (textNodes text) else none := by
  cases value with
  | none => simp [propertyNodes]
  | some text => by_cases h : name' = name <;> simp [propertyNodes, isNamed_node, h]

theorem find?_propertiesNodes_of_not_mem {name : String} {ps : List (String × Option String)}
    (h : name ∉ ps.map Prod.fst) : (propertiesNodes ps).find? (Node.isNamed name) = none := by
  induction ps with
  | nil => rfl
  | cons p ps ih =>
    simp only [List.map_cons, List.mem_cons, not_or] at h
    rw [propertiesNodes, List.flatMap_cons, List.find?_append, find?_propertyNodes,
      if_neg (Ne.symm h.1), Option.none_or]
    exact ih h.2

/-- Among properties with different names each is found by its name. -/
theorem find?_propertiesNodes {name : String} {value : Option String}
    {ps : List (String × Option String)} (hnodup : (ps.map Prod.fst).Nodup)
    (h : (name, value) ∈ ps) : (propertiesNodes ps).find? (Node.isNamed name) =
      value.map fun text => node name (textNodes text) := by
  induction ps with
  | nil => cases h
  | cons p ps ih =>
    obtain ⟨hp, hps⟩ := List.nodup_cons.mp hnodup
    rw [propertiesNodes, List.flatMap_cons, List.find?_append, find?_propertyNodes]
    rcases List.mem_cons.mp h with rfl | hmem
    · rw [if_pos rfl]
      have hnone := find?_propertiesNodes_of_not_mem hp
      rw [propertiesNodes] at hnone
      rw [hnone, Option.or_none]
    · have hne : p.1 ≠ name := by
        rintro rfl
        exact hp (List.mem_map.mpr ⟨_, hmem, rfl⟩)
      rw [if_neg hne, Option.none_or]
      exact ih hps hmem

theorem bind_text? (name : String) (value : Option String) :
    ((value.map fun text => node name (textNodes text)).bind Node.text?) =
      Resource.nonEmpty value := by
  cases value with
  | none => rfl
  | some text =>
    rw [Option.map_some, Option.bind_some, text?_node, Resource.nonEmpty, Option.filter_some]
    by_cases h : text = "" <;> simp [h]

/-- The names of the properties are different, and none is that of the type. -/
theorem properties_names (r : Resource) : ((properties r).map Prod.fst).Nodup ∧
    ∀ name ∈ (properties r).map Prod.fst, "D:resourcetype" ≠ name := by
  show List.Nodup ["D:getcontenttype", "D:getetag", "D:creationdate", "D:getlastmodified"] ∧
    ∀ name ∈ ["D:getcontenttype", "D:getetag", "D:creationdate", "D:getlastmodified"],
      "D:resourcetype" ≠ name
  decide

theorem childText?_propNode {r : Resource} {name : String} {value : Option String}
    (h : (name, value) ∈ properties r) :
    (propNode r).childText? name = Resource.nonEmpty value := by
  obtain ⟨hnodup, htype⟩ := properties_names r
  have hne := htype name (List.mem_map_of_mem h)
  have hlast : [typeNode r.isCollection].find? (Node.isNamed name) = none := by
    simp [typeNode, isNamed_node, hne]
  rw [Node.childText?, propNode, child?_node, List.find?_append, find?_propertiesNodes hnodup h,
    hlast, Option.or_none, bind_text?]

theorem marksCollection_propNode (r : Resource) :
    marksCollection (some "D") (propNode r) = r.isCollection := by
  have hnone : (propertiesNodes (properties r)).find? (Node.isNamed "D:resourcetype") = none :=
    find?_propertiesNodes_of_not_mem fun hmem => (properties_names r).2 _ hmem rfl
  have htype : (propNode r).child? "D:resourcetype" = some (typeNode r.isCollection) := by
    rw [propNode, child?_node, List.find?_append, hnone]
    rfl
  have hname : qualified (some "D") "resourcetype" = "D:resourcetype" := rfl
  have hcollection : qualified (some "D") "collection" = "D:collection" := rfl
  rw [marksCollection, hname, htype, hcollection, typeNode]
  cases r.isCollection <;> rfl

/-- The properties of an entry come back, but for empty texts. -/
theorem withProperties_propNode (r s : Resource) :
    withProperties (some "D") s (propNode r) =
      { s with
        contentType := Resource.nonEmpty r.contentType
        etag := Resource.nonEmpty r.etag
        creationDate := Resource.nonEmpty r.creationDate
        lastModified := Resource.nonEmpty r.lastModified
        isCollection := r.isCollection } := by
  have h₁ := childText?_propNode
    (show ("D:getcontenttype", r.contentType) ∈ properties r by simp [properties])
  have h₂ := childText?_propNode
    (show ("D:getetag", r.etag) ∈ properties r by simp [properties])
  have h₃ := childText?_propNode
    (show ("D:creationdate", r.creationDate) ∈ properties r by simp [properties])
  have h₄ := childText?_propNode
    (show ("D:getlastmodified", r.lastModified) ∈ properties r by simp [properties])
  rw [← h₁, ← h₂, ← h₃, ← h₄, ← marksCollection_propNode r]
  rfl

/-! ## The status -/

theorem statusOfLine_statusLine (status : UInt16) :
    statusOfLine (statusLine status) = status := by
  have hword : ∀ c ∈ "HTTP/1.1".toList, Text.isBlank c = false := by
    have hnone : "HTTP/1.1".toList.any Text.isBlank = false := by decide
    simpa using List.any_eq_false.mp hnone
  have hdigits : ∀ c ∈ Numeral.decimal status.toNat, Text.isBlank c = false := fun c hc =>
    Text.isBlank_of_isDigit (Numeral.isDigit_of_mem_decimal hc)
  have hblank : "HTTP/1.1 ".toList = "HTTP/1.1".toList ++ [' '] := by decide
  have hwords : Text.words (statusLine status).toList =
      ["HTTP/1.1".toList, Numeral.decimal status.toNat] := by
    rw [toList_statusLine, hblank, List.append_assoc, List.singleton_append,
      Text.words_append (by decide) hword (by decide),
      Text.words_eq_singleton (Numeral.decimal_ne_nil _) hdigits]
  have hbound : status.toNat ≤ 65535 := by have := status.toNat_lt; omega
  have hsecond : ["HTTP/1.1".toList, Numeral.decimal status.toNat][1]? =
      some (Numeral.decimal status.toNat) := rfl
  rw [statusOfLine, hwords, hsecond, Option.bind_some, Numeral.decimal?_decimal hbound]
  exact UInt16.ofNat_toNat

theorem statusLine_ne (status : UInt16) : statusLine status ≠ "" := by
  intro h
  have hchars := toList_statusLine status
  rw [h] at hchars
  cases hchars

theorem childText?_status (r : Resource) :
    (node "D:propstat" ([propNode r] ++ statusNodes r.status)).childText? "D:status" =
      if r.status = 0 then none else some (statusLine r.status) := by
  have hprop : [propNode r].find? (Node.isNamed "D:status") = none := rfl
  rw [Node.childText?, child?_node, List.find?_append, hprop, Option.none_or, statusNodes]
  split
  · rfl
  · have hstatus : [node "D:status" (textNodes (statusLine r.status))].find?
        (Node.isNamed "D:status") = some (node "D:status" (textNodes (statusLine r.status))) := rfl
    rw [hstatus, Option.bind_some, text?_node, if_neg (statusLine_ne _)]

/-- What the second part of an entry says comes back. -/
theorem withPropstat_propstat (r : Resource) :
    withPropstat (some "D") { href := Text.trim r.href }
      (node "D:propstat" ([propNode r] ++ statusNodes r.status)) = r.readBack := by
  have hprop : (node "D:propstat" ([propNode r] ++ statusNodes r.status)).child?
      (qualified (some "D") "prop") = some (propNode r) := rfl
  have hname : qualified (some "D") "status" = "D:status" := rfl
  unfold withPropstat
  rw [hprop]
  dsimp only
  rw [withProperties_propNode, hname, childText?_status]
  by_cases hstatus : r.status = 0
  · rw [if_pos hstatus]
    simp [Resource.readBack, hstatus]
  · rw [if_neg hstatus]
    simp [Resource.readBack, Resource.withStatusLine, statusOfLine_statusLine]

/-- The entry comes back, if it has a reference. -/
theorem resourceOf?_responseNode (r : Resource) :
    resourceOf? (some "D") (responseNode r) = if r.href = "" then none else some r.readBack := by
  have hhref : (responseNode r).childText? (qualified (some "D") "href") =
      if r.href = "" then none else some r.href := text?_node "D:href" r.href
  have hpropstat : propstat? (some "D") (responseNode r) =
      some (node "D:propstat" ([propNode r] ++ statusNodes r.status)) := rfl
  rw [resourceOf?, hhref, hpropstat]
  by_cases h : r.href = ""
  · rw [if_pos h, if_pos h]
    rfl
  · rw [if_neg h, if_neg h]
    exact congrArg some (withPropstat_propstat r)

/-- The tree of a report has the entries that come back, one after the other. -/
theorem ofNode?_rootNode (m : MultiStatus) : ofNode? (rootNode m) =
    some (ofList ((m.entries.filter fun r => r.href ≠ "").map Resource.readBack)) := by
  have hqualifier : (⟨"D:multistatus", some davSpace⟩ : Tag).qualifier = some "D" := by decide
  have hlocal : (⟨"D:multistatus", some davSpace⟩ : Tag).localName = "multistatus" := by decide
  have hall : (rootNode m).childrenNamed (qualified (some "D") "response") =
      m.entries.map responseNode := by
    refine List.filter_eq_self.mpr fun n hn => ?_
    obtain ⟨r, -, rfl⟩ := List.mem_map.mp hn
    rfl
  have hentries : (m.entries.map responseNode).filterMap (resourceOf? (some "D")) =
      (m.entries.filter fun r => r.href ≠ "").map Resource.readBack := by
    rw [List.filterMap_map]
    induction m.entries with
    | nil => rfl
    | cons r rs ih =>
      rw [List.filterMap_cons, Function.comp_apply, resourceOf?_responseNode, ih]
      by_cases h : r.href = "" <;> simp [h]
  have hroot : ofNode? (rootNode m) = some (ofList
      (((rootNode m).childrenNamed (qualified (some "D") "response")).filterMap
        (resourceOf? (some "D")))) := by
    rw [rootNode, node, ofNode?, if_pos ⟨rfl, hlocal⟩, hqualifier]
  rw [hroot, hall, hentries]

end MultiStatus

end DavCourier.Dav
