import AgentSkeptic.Engine.StateWitness

/-!
# What a verified state witness says

`Held w req` says that the provider reported the requested object and that every
expectation of the request was compared with a reported value and matched it.
HTTP and MongoDB witnesses are verified only then.  The other two accept some
replies although an expectation was not checked; `Overlooked w req` lists them,
and `verified_held_iff` says that there are no others.
-/

namespace AgentSkeptic.Engine

open AgentSkeptic.Support

/-! ## Shared facts -/

theorem firstMismatch_eq_none {read : String → Except String JsValue}
    {fields : ScalarFields} :
    firstMismatch read fields = .ok none ↔
      ∀ m ∈ fields, ∃ v, read m.1 = .ok v ∧ scalarMatches m.2 v = true := by
  induction fields with
  | nil => simp [firstMismatch]
  | cons m rest ih =>
      rw [firstMismatch, bind_eq_ok]
      simp only [List.forall_mem_cons, bind_eq_ok, ← ih]
      constructor
      · rintro ⟨v, hv, result, hresult, hrest⟩
        rcases result with _ | ⟨e, a⟩
        · exact ⟨⟨v, hv, verificationScalarsEqual_ok_iff.mp hresult⟩, hrest⟩
        · cases hrest
      · rintro ⟨⟨v, hv, hmatch⟩, hrest⟩
        exact ⟨v, hv, .ok, verificationScalarsEqual_ok_iff.mpr hmatch, hrest⟩

theorem firstMismatch_eq_none_of_reads {read : String → JsValue}
    {fields : ScalarFields} :
    firstMismatch (fun key => .ok (read key)) fields = .ok none ↔
      ∀ m ∈ fields, scalarMatches m.2 (read m.1) = true := by
  simp [firstMismatch_eq_none]

theorem caught_verified {run : Except String ReconcileOutput}
    {onError : String → ReconcileOutput}
    (herror : ∀ message, (onError message).status ≠ .verified) :
    (caught run onError).status = .verified ↔
      ∃ out, run = .ok out ∧ out.status = .verified := by
  rcases run with message | out
  · simp [caught, herror message]
  · simp [caught]

/-! ## Vector documents -/

/-- An own entry `body[key][id]` of two nested objects. -/
def ownEntry (body : Json) (key id : String) : Option Json :=
  match body.member key with
  | .json (.obj members) => ownMember members id
  | _ => none

/-- `.` and `..` do not survive in the path of a URL. -/
def isDotSegment (s : String) : Bool := s = "." || s = ".."

/-- The provider reported the requested document: in the namespace that the query
named, and with the metadata that the code reads from the reply.  A Pinecone host
is the host of one index. -/
inductive VectorReported (w : WitnessWorld) (t : VectorTarget)
    (req : VectorDocumentVerificationRequest) :
    Option String → (String → Option JsValue) → Prop
  | pinecone {r : FetchReply} {body entry : Json}
      (hprovider : req.provider = .pinecone)
      (hreply : w.fetch (pineconeFetch t req) = .ok r) (hok : r.ok = true)
      (hbody : responseJson w r = .ok body)
      (hentry : ownEntry body "vectors" req.documentId = some entry)
      (htruthy : (JsValue.json entry).truthy = true) :
      VectorReported w t req (req.namespace_.filter (· ≠ ""))
        fun key => some (vectorMetadata (.json entry) key)
  | weaviate {r : FetchReply} (hprovider : req.provider = .weaviate)
      (hreply : w.fetch (weaviateFetch t req) = .ok r) (hok : r.ok = true)
      (hclass : isDotSegment req.indexName = false)
      (hid : isDotSegment req.documentId = false) :
      VectorReported w t req none fun _ => none
  | chroma {r : FetchReply} {body : Json} {items : List Json}
      (hprovider : req.provider = .chroma)
      (hreply : w.fetch (chromaFetch t req) = .ok r) (hok : r.ok = true)
      (hbody : responseJson w r = .ok body)
      (hids : body.member "ids" = .json (.arr items))
      (hlisted : Json.str req.documentId ∈ items)
      (hclass : isDotSegment req.indexName = false) :
      VectorReported w t req none fun _ => none

structure VectorHeld (w : WitnessWorld)
    (req : VectorDocumentVerificationRequest) : Prop where
  /-- No provider reports a digest that it could be compared with. -/
  payload : req.expectPayloadSha256 = none
  reported : ∃ t metadata, vectorTarget w req = .ok t ∧
    VectorReported w t req req.namespace_ metadata ∧
    ∀ m ∈ req.metadataSubset.getD [],
      ∃ v, metadata m.1 = some v ∧ scalarMatches m.2 v = true

/-- The request has expectations that the Weaviate and Chroma branches never
read. -/
def UnreadExpectation (req : VectorDocumentVerificationRequest) : Prop :=
  req.namespace_ ≠ none ∨ req.metadataSubset.getD [] ≠ []

/-- The accepted replies of a provider that leave an expectation unchecked. -/
inductive VectorOverlooked (w : WitnessWorld) (t : VectorTarget)
    (req : VectorDocumentVerificationRequest) : Prop
  /-- The value under the document's id is not an entry of the reply. -/
  | pinecone {r : FetchReply} {body : Json}
      (hprovider : req.provider = .pinecone)
      (hreply : w.fetch (pineconeFetch t req) = .ok r) (hok : r.ok = true)
      (hbody : responseJson w r = .ok body) (hnull : body ≠ .null)
      (hinherited : ownEntry body "vectors" req.documentId = none)
      (htruthy : ((body.member "vectors").optionalMember
        req.documentId).truthy = true)
      (hmetadata : ∀ m ∈ req.metadataSubset.getD [], scalarMatches m.2
        (vectorMetadata ((body.member "vectors").optionalMember
          req.documentId) m.1) = true)
  | weaviate {r : FetchReply} (hprovider : req.provider = .weaviate)
      (hreply : w.fetch (weaviateFetch t req) = .ok r) (hok : r.ok = true)
      (hunchecked : UnreadExpectation req ∨ isDotSegment req.indexName = true ∨
        isDotSegment req.documentId = true)
  | chroma {r : FetchReply} {body : Json} (hprovider : req.provider = .chroma)
      (hreply : w.fetch (chromaFetch t req) = .ok r) (hok : r.ok = true)
      (hbody : responseJson w r = .ok body) (hnull : body ≠ .null)
      (hlisted : idsIncludes (body.member "ids") req.documentId = .ok true)
      (hunchecked : UnreadExpectation req ∨ isDotSegment req.indexName = true ∨
        ∃ text, body.member "ids" = .json (.str text))

section Vector

variable {w : WitnessWorld} {t : VectorTarget}
  {req : VectorDocumentVerificationRequest}

theorem bodyMember_eq_ok {body : Json} {key : String} {v : JsValue} :
    bodyMember body key = .ok v ↔ body ≠ .null ∧ body.member key = v := by
  cases body with
  | null => simp [bodyMember]
  | bool value => simp [bodyMember]
  | num value => simp [bodyMember]
  | str value => simp [bodyMember]
  | arr items => simp [bodyMember]
  | obj members => simp [bodyMember]

theorem ownEntry_read {body entry : Json} {key id : String}
    (h : ownEntry body key id = some entry) :
    body ≠ .null ∧ (body.member key).optionalMember id = .json entry := by
  unfold ownEntry at h
  split at h
  · rename_i members hmember
    refine ⟨?_, ?_⟩
    · rintro rfl
      cases hmember
    · rw [hmember]
      simp only [JsValue.optionalMember, JsValue.isNullish, JsValue.member,
        Json.member, h]
      rfl
  · cases h

/-- The Pinecone branch verifies a truthy value whose metadata match. -/
theorem reconcilePinecone_verified :
    (∃ out, reconcilePinecone w t req = .ok out ∧ out.status = .verified) ↔
      ∃ r body, w.fetch (pineconeFetch t req) = .ok r ∧ r.ok = true ∧
        responseJson w r = .ok body ∧ body ≠ .null ∧
        ((body.member "vectors").optionalMember req.documentId).truthy = true ∧
        ∀ m ∈ req.metadataSubset.getD [], scalarMatches m.2
          (vectorMetadata ((body.member "vectors").optionalMember
            req.documentId) m.1) = true := by
  constructor
  · rintro ⟨out, hout, hverified⟩
    obtain ⟨r, hreply, hout⟩ := bind_eq_ok.mp hout
    split at hout
    · cases hout
      cases hverified
    · rename_i hok
      obtain ⟨body, hbody, hout⟩ := bind_eq_ok.mp hout
      obtain ⟨vectors, hvectors, hout⟩ := bind_eq_ok.mp hout
      obtain ⟨hnull, rfl⟩ := bodyMember_eq_ok.mp hvectors
      dsimp only at hout
      split at hout
      · cases hout
        cases hverified
      · rename_i htruthy
        obtain ⟨mismatch, hmismatch, hout⟩ := bind_eq_ok.mp hout
        rcases mismatch with _ | m
        · exact ⟨r, body, hreply, by simpa using hok, hbody, hnull,
            by simpa using htruthy, firstMismatch_eq_none_of_reads.mp hmismatch⟩
        · cases hout
          cases hverified
  · rintro ⟨r, body, hreply, hok, hbody, hnull, htruthy, hmetadata⟩
    have hvectors : bodyMember body "vectors" = .ok (body.member "vectors") :=
      bodyMember_eq_ok.mpr ⟨hnull, rfl⟩
    have hmatches := firstMismatch_eq_none_of_reads.mpr hmetadata
    refine ⟨verifiedOutput
      [("provider", .str req.provider.text), ("vector", .bool true)], ?_, rfl⟩
    apply bind_eq_ok.mpr
    refine ⟨r, hreply, ?_⟩
    rw [if_neg (by simp [hok])]
    apply bind_eq_ok.mpr
    refine ⟨body, hbody, ?_⟩
    apply bind_eq_ok.mpr
    refine ⟨_, hvectors, ?_⟩
    dsimp only
    rw [if_neg (by simp [htruthy])]
    apply bind_eq_ok.mpr
    exact ⟨none, hmatches, rfl⟩

/-- The Weaviate branch verifies every reply that succeeds. -/
theorem reconcileWeaviate_verified :
    (∃ out, reconcileWeaviate w t req = .ok out ∧ out.status = .verified) ↔
      ∃ r, w.fetch (weaviateFetch t req) = .ok r ∧ r.ok = true := by
  constructor
  · rintro ⟨out, hout, hverified⟩
    obtain ⟨r, hreply, hout⟩ := bind_eq_ok.mp hout
    split at hout
    · cases hout
      cases hverified
    · split at hout
      · cases hout
        cases hverified
      · rename_i hok
        exact ⟨r, hreply, by simpa using hok⟩
  · rintro ⟨r, hreply, hok⟩
    have hstatus : r.status ≠ 404 := by
      intro hmissing
      simp [FetchReply.ok, hmissing] at hok
    refine ⟨verifiedOutput [("provider", .str "weaviate")], ?_, rfl⟩
    apply bind_eq_ok.mpr
    refine ⟨r, hreply, ?_⟩
    rw [if_neg hstatus, if_neg (by simp [hok])]

/-- The Chroma branch verifies every reply whose `ids` include the document's. -/
theorem reconcileChroma_verified :
    (∃ out, reconcileChroma w t req = .ok out ∧ out.status = .verified) ↔
      ∃ r body, w.fetch (chromaFetch t req) = .ok r ∧ r.ok = true ∧
        responseJson w r = .ok body ∧ body ≠ .null ∧
        idsIncludes (body.member "ids") req.documentId = .ok true := by
  constructor
  · rintro ⟨out, hout, hverified⟩
    obtain ⟨r, hreply, hout⟩ := bind_eq_ok.mp hout
    split at hout
    · cases hout
      cases hverified
    · rename_i hok
      obtain ⟨body, hbody, hout⟩ := bind_eq_ok.mp hout
      obtain ⟨ids, hids, hout⟩ := bind_eq_ok.mp hout
      obtain ⟨hnull, rfl⟩ := bodyMember_eq_ok.mp hids
      obtain ⟨listed, hlisted, hout⟩ := bind_eq_ok.mp hout
      split at hout
      · rename_i htrue
        exact ⟨r, body, hreply, by simpa using hok, hbody, hnull,
          by rw [hlisted, htrue]⟩
      · cases hout
        cases hverified
  · rintro ⟨r, body, hreply, hok, hbody, hnull, hlisted⟩
    have hids : bodyMember body "ids" = .ok (body.member "ids") :=
      bodyMember_eq_ok.mpr ⟨hnull, rfl⟩
    refine ⟨verifiedOutput [("provider", .str "chroma")], ?_, rfl⟩
    apply bind_eq_ok.mpr
    refine ⟨r, hreply, ?_⟩
    rw [if_neg (by simp [hok])]
    apply bind_eq_ok.mpr
    refine ⟨body, hbody, ?_⟩
    apply bind_eq_ok.mpr
    refine ⟨_, hids, ?_⟩
    apply bind_eq_ok.mpr
    exact ⟨true, hlisted, rfl⟩

/-- `includes` answers `true` on an array that lists the id and on a text that
contains it. -/
theorem idsIncludes_true {ids : JsValue} {documentId : String}
    (h : idsIncludes ids documentId = .ok true) :
    (∃ items, ids = .json (.arr items) ∧ Json.str documentId ∈ items) ∨
      ∃ text, ids = .json (.str text) := by
  unfold idsIncludes at h
  split at h
  · cases h
  · cases h
  · rename_i items
    left
    have hany := Except.ok.inj h
    obtain ⟨item, hitem, hsame⟩ := List.any_eq_true.mp hany
    split at hsame
    · rename_i text
      have htext : text = documentId := by simpa using hsame
      rw [htext] at hitem
      exact ⟨items, rfl, hitem⟩
    · cases hsame
  · rename_i text
    exact .inr ⟨text, rfl⟩
  · cases h

theorem reconcileVectorDocument_verified
    (hpayload : req.expectPayloadSha256 ≠ some "") :
    (reconcileVectorDocument w req).status = .verified ↔
      req.expectPayloadSha256 = none ∧
        ∃ t, vectorTarget w req = .ok t ∧ ∃ out,
          reconcileProvider w t req = .ok out ∧ out.status = .verified := by
  unfold reconcileVectorDocument
  by_cases hdeclared : req.expectPayloadSha256 = none
  · rw [if_neg (by simp [hdeclared])]
    rcases htarget : vectorTarget w req with message | t
    · simp [setupError, output]
    · dsimp only
      rw [caught_verified fun message => by simp [output]]
      simp [hdeclared]
  · obtain ⟨sha, hsha⟩ := Option.ne_none_iff_exists'.mp hdeclared
    have hne : sha ≠ "" := by
      rintro rfl
      exact hpayload hsha
    rw [if_pos (by simp [hsha, hne])]
    simp [setupError, output, hdeclared]

theorem namespace_filter (h : req.namespace_ ≠ some "") :
    req.namespace_.filter (· ≠ "") = req.namespace_ := by
  rcases hns : req.namespace_ with _ | ns
  · rfl
  · have hne : ns ≠ "" := by
      rintro rfl
      exact h hns
    simp [hne]

/-- What Weaviate and Chroma report holds of a request without unread
expectations. -/
theorem held_of_read {reported : Option String → (String → Option JsValue) → Prop}
    (hread : ¬ UnreadExpectation req) (h : reported none fun _ => none) :
    ∃ metadata, reported req.namespace_ metadata ∧
      ∀ m ∈ req.metadataSubset.getD [],
        ∃ v, metadata m.1 = some v ∧ scalarMatches m.2 v = true := by
  obtain ⟨hns, hmetadata⟩ := not_or.mp hread
  rw [not_not] at hns hmetadata
  rw [hns]
  refine ⟨_, h, ?_⟩
  rw [hmetadata]
  intro m hm
  cases hm

/-- Reports without metadata support only requests without unread
expectations. -/
theorem read_of_held {ns : Option String} {metadata : String → Option JsValue}
    (hnamespace : ns = none) (hnone : metadata = fun _ => none)
    (hns : ns = req.namespace_) (hmetadata : ∀ m ∈ req.metadataSubset.getD [],
      ∃ v, metadata m.1 = some v ∧ scalarMatches m.2 v = true) :
    ¬ UnreadExpectation req := by
  rintro (hdeclared | hentries)
  · exact hdeclared (hns.symm.trans hnamespace)
  · obtain ⟨m, hm⟩ := List.exists_mem_of_ne_nil _ hentries
    obtain ⟨v, hv, -⟩ := hmetadata m hm
    rw [hnone] at hv
    cases hv

/-- An accepted reply that is not overlooked supports the request. -/
theorem reported_of_accepted (hnamespace : req.namespace_ ≠ some "")
    (hoverlooked : ¬ VectorOverlooked w t req)
    (h : ∃ out, reconcileProvider w t req = .ok out ∧ out.status = .verified) :
    ∃ metadata, VectorReported w t req req.namespace_ metadata ∧
      ∀ m ∈ req.metadataSubset.getD [],
        ∃ v, metadata m.1 = some v ∧ scalarMatches m.2 v = true := by
  rcases hprovider : req.provider with _ | _ | _
  · simp only [reconcileProvider, hprovider] at h
    obtain ⟨r, body, hreply, hok, hbody, hnull, htruthy, hmetadata⟩ :=
      reconcilePinecone_verified.mp h
    rcases hentry : ownEntry body "vectors" req.documentId with _ | entry
    · exfalso
      exact hoverlooked (.pinecone hprovider hreply hok hbody hnull hentry htruthy
        hmetadata)
    · obtain ⟨-, hread⟩ := ownEntry_read hentry
      rw [hread] at htruthy hmetadata
      have hreported :=
        VectorReported.pinecone hprovider hreply hok hbody hentry htruthy
      rw [namespace_filter hnamespace] at hreported
      exact ⟨_, hreported, fun m hm => ⟨_, rfl, hmetadata m hm⟩⟩
  · simp only [reconcileProvider, hprovider] at h
    obtain ⟨r, hreply, hok⟩ := reconcileWeaviate_verified.mp h
    have hchecked : ¬ (UnreadExpectation req ∨ isDotSegment req.indexName = true ∨
        isDotSegment req.documentId = true) := by
      intro hunchecked
      exact hoverlooked (.weaviate hprovider hreply hok hunchecked)
    obtain ⟨hread, hsegments⟩ := not_or.mp hchecked
    obtain ⟨hclass, hid⟩ := not_or.mp hsegments
    exact held_of_read hread (.weaviate hprovider hreply hok (by simpa using hclass)
      (by simpa using hid))
  · simp only [reconcileProvider, hprovider] at h
    obtain ⟨r, body, hreply, hok, hbody, hnull, hlisted⟩ :=
      reconcileChroma_verified.mp h
    have hchecked : ¬ (UnreadExpectation req ∨ isDotSegment req.indexName = true ∨
        ∃ text, body.member "ids" = .json (.str text)) := by
      intro hunchecked
      exact hoverlooked
        (.chroma hprovider hreply hok hbody hnull hlisted hunchecked)
    obtain ⟨hread, hrest⟩ := not_or.mp hchecked
    obtain ⟨hclass, htext⟩ := not_or.mp hrest
    obtain ⟨items, hids, hmem⟩ := (idsIncludes_true hlisted).resolve_right htext
    exact held_of_read hread (.chroma hprovider hreply hok hbody hids hmem
      (by simpa using hclass))

/-- An overlooked reply is accepted, and nothing reported supports the request. -/
theorem not_reported_of_overlooked (h : VectorOverlooked w t req) :
    (∃ out, reconcileProvider w t req = .ok out ∧ out.status = .verified) ∧
      ∀ metadata, VectorReported w t req req.namespace_ metadata →
        ¬ ∀ m ∈ req.metadataSubset.getD [],
          ∃ v, metadata m.1 = some v ∧ scalarMatches m.2 v = true := by
  cases h with
  | @pinecone r body hprovider hreply hok hbody hnull hinherited htruthy hmetadata =>
      constructor
      · simp only [reconcileProvider, hprovider]
        exact reconcilePinecone_verified.mpr
          ⟨r, body, hreply, hok, hbody, hnull, htruthy, hmetadata⟩
      · intro metadata hreported hmatch
        generalize req.namespace_ = ns at hreported
        cases hreported with
        | @pinecone r' body' entry _ hreply' _ hbody' hentry _ =>
            obtain rfl := Except.ok.inj (hreply.symm.trans hreply')
            obtain rfl := Except.ok.inj (hbody.symm.trans hbody')
            rw [hinherited] at hentry
            cases hentry
        | weaviate hother => exact nomatch hprovider.symm.trans hother
        | chroma hother => exact nomatch hprovider.symm.trans hother
  | @weaviate r hprovider hreply hok hunchecked =>
      constructor
      · simp only [reconcileProvider, hprovider]
        exact reconcileWeaviate_verified.mpr ⟨r, hreply, hok⟩
      · intro metadata hreported hmatch
        generalize hns : req.namespace_ = ns at hreported
        cases hreported with
        | pinecone hother => exact nomatch hprovider.symm.trans hother
        | weaviate _ _ _ hclass hid =>
            rcases hunchecked with hunread | hdot | hdot
            · exact read_of_held rfl rfl hns.symm hmatch hunread
            · rw [hclass] at hdot
              cases hdot
            · rw [hid] at hdot
              cases hdot
        | chroma hother => exact nomatch hprovider.symm.trans hother
  | @chroma r body hprovider hreply hok hbody hnull hlisted hunchecked =>
      constructor
      · simp only [reconcileProvider, hprovider]
        exact reconcileChroma_verified.mpr
          ⟨r, body, hreply, hok, hbody, hnull, hlisted⟩
      · intro metadata hreported hmatch
        generalize hns : req.namespace_ = ns at hreported
        cases hreported with
        | pinecone hother => exact nomatch hprovider.symm.trans hother
        | weaviate hother => exact nomatch hprovider.symm.trans hother
        | @chroma r' body' items _ hreply' _ hbody' hids _ hclass =>
            obtain rfl := Except.ok.inj (hreply.symm.trans hreply')
            obtain rfl := Except.ok.inj (hbody.symm.trans hbody')
            rcases hunchecked with hunread | hdot | ⟨text, htext⟩
            · exact read_of_held rfl rfl hns.symm hmatch hunread
            · rw [hclass] at hdot
              cases hdot
            · rw [hids] at htext
              cases htext

/-- A vector document that is verified is held, except after an overlooked
reply. -/
theorem vectorDocument_held_iff (hpayload : req.expectPayloadSha256 ≠ some "")
    (hnamespace : req.namespace_ ≠ some "") :
    ((reconcileVectorDocument w req).status = .verified → VectorHeld w req) ↔
      ¬ (req.expectPayloadSha256 = none ∧
        ∃ t, vectorTarget w req = .ok t ∧ VectorOverlooked w t req) := by
  rw [reconcileVectorDocument_verified hpayload]
  constructor
  · rintro hheld ⟨hnone, t, htarget, hoverlooked⟩
    obtain ⟨haccepted, hreports⟩ := not_reported_of_overlooked hoverlooked
    obtain ⟨t', metadata, htarget', hreported, hmatch⟩ :=
      (hheld ⟨hnone, t, htarget, haccepted⟩).reported
    obtain rfl := Except.ok.inj (htarget.symm.trans htarget')
    exact hreports metadata hreported hmatch
  · rintro hnot ⟨hnone, t, htarget, haccepted⟩
    have hoverlooked : ¬ VectorOverlooked w t req := by
      intro h
      exact hnot ⟨hnone, t, htarget, h⟩
    obtain ⟨metadata, hreported, hmatch⟩ :=
      reported_of_accepted hnamespace hoverlooked haccepted
    exact ⟨hnone, t, metadata, htarget, hreported, hmatch⟩

end Vector

/-! ## Object storage -/

def EtagMatches (req : ObjectStorageVerificationRequest)
    (head : HeadObjectReply) : Prop :=
  ∀ etag, req.expectEtag = some etag →
    normalizeS3Etag (some etag) = normalizeS3Etag head.eTag

/-- The body was read, is small enough to be hashed and has the digest. -/
def DigestMatches (w : WitnessWorld) (req : ObjectStorageVerificationRequest)
    (head : HeadObjectReply) : Prop :=
  ∀ sha, req.expectSha256 = some sha →
    (∀ n, head.contentLength = some n → n ≤ objectMaxHashBytes) ∧
    ∃ bytes, w.getObject (s3Client w req) req.bucket req.key = .ok (.bytes bytes) ∧
      (bytes.length : ℤ) ≤ objectMaxHashBytes ∧
      sameDigest (w.sha256Hex bytes) sha = true

structure ObjectHeld (w : WitnessWorld)
    (req : ObjectStorageVerificationRequest) (head : HeadObjectReply) : Prop where
  exists_ : w.headObject (s3Client w req) req.bucket req.key = .ok head
  size : ∀ size, req.expectSizeBytes = some size →
    ∃ n, head.contentLength = some n ∧ JsNumber.int n = size
  etag : ∀ etag, req.expectEtag = some etag →
    ∃ got, head.eTag = some got ∧
      normalizeS3Etag (some etag) = normalizeS3Etag (some got)
  digest : ∀ sha, req.expectSha256 = some sha →
    ∃ bytes, w.getObject (s3Client w req) req.bucket req.key = .ok (.bytes bytes) ∧
      sameDigest (w.sha256Hex bytes) sha = true

/-- A size is declared, but the head reports none; the other checks hold. -/
structure ObjectOverlooked (w : WitnessWorld)
    (req : ObjectStorageVerificationRequest) (head : HeadObjectReply) : Prop where
  exists_ : w.headObject (s3Client w req) req.bucket req.key = .ok head
  size_declared : req.expectSizeBytes ≠ none
  size_absent : head.contentLength = none
  etag : EtagMatches req head
  digest : DigestMatches w req head

section ObjectStorage

variable {w : WitnessWorld} {req : ObjectStorageVerificationRequest}
  {head : HeadObjectReply}

theorem sizeMismatch_eq_none :
    sizeMismatch req head = none ↔
      ∀ size n, req.expectSizeBytes = some size →
        head.contentLength = some n → JsNumber.int n = size := by
  unfold sizeMismatch
  split
  · rename_i size n hsize hlength
    simp [hsize, hlength]
  · rename_i hboth
    refine iff_of_true rfl ?_
    intro size n hsize hlength
    exact absurd hlength (hboth size n hsize)

theorem etagMismatch_eq_none :
    etagMismatch req head = none ↔ EtagMatches req head := by
  unfold etagMismatch EtagMatches
  split
  · rename_i hnone
    simp [hnone]
  · rename_i etag hetag
    simp [hetag]

theorem digestCheck_eq_none {sha : String} :
    digestCheck w req head sha = .ok none ↔
      (∀ n, head.contentLength = some n → n ≤ objectMaxHashBytes) ∧
      ∃ bytes, w.getObject (s3Client w req) req.bucket req.key =
          .ok (.bytes bytes) ∧
        (bytes.length : ℤ) ≤ objectMaxHashBytes ∧
        sameDigest (w.sha256Hex bytes) sha = true := by
  unfold digestCheck
  by_cases hlarge : head.contentLength.any (objectMaxHashBytes < ·) = true
  · rw [if_pos hlarge]
    constructor
    · intro h
      cases h
    · rintro ⟨hsmall, -⟩
      rcases hn : head.contentLength with _ | n
      · simp [hn] at hlarge
      · have hlt : objectMaxHashBytes < n := by simpa [hn] using hlarge
        exact absurd (hsmall n hn) (not_le.mpr hlt)
  · rw [if_neg hlarge]
    have hsmall : ∀ n, head.contentLength = some n → n ≤ objectMaxHashBytes := by
      intro n hn
      rw [hn] at hlarge
      simpa using hlarge
    rw [and_iff_right hsmall]
    split
    · rename_i e hget
      split
      · simp [hget]
      · simp [hget]
    · rename_i hget
      simp [hget]
    · rename_i e hget
      simp [hget]
    · rename_i bytes hget
      by_cases htoolarge : objectMaxHashBytes < (bytes.length : ℤ)
      · simp [hget, htoolarge]
      · by_cases hdigest : sameDigest (w.sha256Hex bytes) sha = true
        · simp [hget, hdigest, htoolarge, not_lt.mp htoolarge]
        · simp [hget, hdigest, htoolarge]

theorem sizeMismatch_status {out : ReconcileOutput}
    (h : sizeMismatch req head = some out) : out.status ≠ .verified := by
  unfold sizeMismatch at h
  split at h
  · split at h
    · cases h
    · cases h
      simp [output]
  · cases h

theorem etagMismatch_status {out : ReconcileOutput}
    (h : etagMismatch req head = some out) : out.status ≠ .verified := by
  unfold etagMismatch at h
  split at h
  · cases h
  · dsimp only at h
    split at h
    · cases h
    · cases h
      simp [output]

theorem digestCheck_status {sha : String} {out : ReconcileOutput}
    (h : digestCheck w req head sha = .ok (some out)) :
    out.status ≠ .verified := by
  unfold digestCheck at h
  dsimp only at h
  split_ifs at h
  · cases h
    simp [output]
  · split at h
    · split_ifs at h
      · cases h
        simp [output]
      · cases h
        simp [output]
    · cases h
      simp [setupError, output]
    · cases h
    · split_ifs at h
      · cases h
        simp [output]
      · cases h
      · cases h
        simp [output]

/-- The checks verify an object exactly when each of them finds nothing. -/
theorem objectChecks_verified :
    (∃ out, objectChecks w req head = .ok out ∧ out.status = .verified) ↔
      sizeMismatch req head = none ∧ EtagMatches req head ∧
        DigestMatches w req head := by
  unfold objectChecks
  rcases hsize : sizeMismatch req head with _ | out
  · rcases hetag : etagMismatch req head with _ | out
    · have hmatches := etagMismatch_eq_none.mp hetag
      rcases hsha : req.expectSha256 with _ | sha
      · simp [verifiedOutput, hmatches, DigestMatches, hsha]
      · have hdigest : DigestMatches w req head ↔
            digestCheck w req head sha = .ok none := by
          rw [digestCheck_eq_none, DigestMatches, hsha]
          simp
        simp only [hdigest, hmatches, true_and, bind_eq_ok]
        constructor
        · rintro ⟨out, ⟨check, hcheck, hout⟩, hverified⟩
          rcases check with _ | bad
          · exact hcheck
          · cases hout
            exact absurd hverified (digestCheck_status hcheck)
        · intro hcheck
          exact ⟨_, ⟨none, hcheck, rfl⟩, rfl⟩
    · have hfails : ¬ EtagMatches req head := by
        intro hmatches
        rw [etagMismatch_eq_none.mpr hmatches] at hetag
        cases hetag
      simp [hfails, etagMismatch_status hetag]
  · simp [sizeMismatch_status hsize]

theorem reconcileObjectStorage_verified :
    (reconcileObjectStorage w req).status = .verified ↔
      ∃ head, w.headObject (s3Client w req) req.bucket req.key = .ok head ∧
        sizeMismatch req head = none ∧ EtagMatches req head ∧
        DigestMatches w req head := by
  have hrun : (reconcileObjectStorage w req).status = .verified ↔
      ∃ out, (do
        let head ← w.headObject (s3Client w req) req.bucket req.key
        objectChecks w req head) = .ok out ∧ out.status = .verified := by
    unfold reconcileObjectStorage
    dsimp only
    split
    · rename_i out hout
      simp [hout]
    · rename_i e he
      rw [he]
      split <;> simp [output]
  rw [hrun]
  constructor
  · rintro ⟨out, hout, hverified⟩
    obtain ⟨head, hhead, hchecks⟩ := bind_eq_ok.mp hout
    exact ⟨head, hhead, objectChecks_verified.mp ⟨out, hchecks, hverified⟩⟩
  · rintro ⟨head, hhead, hchecks⟩
    obtain ⟨out, hout, hverified⟩ := objectChecks_verified.mpr hchecks
    exact ⟨out, bind_eq_ok.mpr ⟨head, hhead, hout⟩, hverified⟩

/-- A declared ETag matches only one that was reported. -/
theorem etag_reported {etag : String} (hne : etag ≠ "")
    (h : normalizeS3Etag (some etag) = normalizeS3Etag head.eTag) :
    ∃ got, head.eTag = some got := by
  rcases hreported : head.eTag with _ | got
  · rw [hreported] at h
    simp [normalizeS3Etag, hne] at h
  · exact ⟨got, rfl⟩

/-- An object that is verified is held, except where a declared size was not
reported. -/
theorem objectStorage_held_iff (hetag : req.expectEtag ≠ some "") :
    ((reconcileObjectStorage w req).status = .verified →
        ∃ head, ObjectHeld w req head) ↔
      ¬ ∃ head, ObjectOverlooked w req head := by
  rw [reconcileObjectStorage_verified]
  constructor
  · rintro hheld ⟨head, hover⟩
    have hsize : sizeMismatch req head = none := by
      rw [sizeMismatch_eq_none]
      intro size n _ hlength
      rw [hover.size_absent] at hlength
      cases hlength
    obtain ⟨head', hheld'⟩ :=
      hheld ⟨head, hover.exists_, hsize, hover.etag, hover.digest⟩
    obtain rfl := Except.ok.inj (hover.exists_.symm.trans hheld'.exists_)
    obtain ⟨size, hdeclared⟩ := Option.ne_none_iff_exists'.mp hover.size_declared
    obtain ⟨n, hlength, -⟩ := hheld'.size size hdeclared
    rw [hover.size_absent] at hlength
    cases hlength
  · rintro hnot ⟨head, hhead, hsize, hmatches, hdigest⟩
    refine ⟨head, hhead, ?_, ?_, ?_⟩
    · intro size hdeclared
      rcases hlength : head.contentLength with _ | n
      · exfalso
        exact hnot ⟨head, hhead, by simp [hdeclared], hlength, hmatches, hdigest⟩
      · exact ⟨n, rfl, sizeMismatch_eq_none.mp hsize size n hdeclared hlength⟩
    · intro etag hdeclared
      have hne : etag ≠ "" := by
        rintro rfl
        exact hetag hdeclared
      obtain ⟨got, hgot⟩ := etag_reported hne (hmatches etag hdeclared)
      exact ⟨got, hgot, hgot ▸ hmatches etag hdeclared⟩
    · intro sha hdeclared
      obtain ⟨-, bytes, hget, -, hsame⟩ := hdigest sha hdeclared
      exact ⟨bytes, hget, hsame⟩

end ObjectStorage

/-! ## MongoDB and HTTP -/

structure MongoHeld (w : WitnessWorld)
    (req : MongoDocumentVerificationRequest) (doc : List (String × JsValue)) :
    Prop where
  exists_ : ∃ uri, mongoUri w = some uri ∧
    w.findOne uri req.collection req.filter = .ok (some doc)
  fields : ∀ m ∈ req.requiredFields, scalarMatches m.2 (documentField doc m.1) = true

theorem mongoDocument_held {w : WitnessWorld}
    {req : MongoDocumentVerificationRequest}
    (h : (reconcileMongoDocument w req).status = .verified) :
    ∃ doc, MongoHeld w req doc := by
  unfold reconcileMongoDocument at h
  split at h
  · cases h
  · rename_i uri huri
    rw [caught_verified fun message => by simp [output]] at h
    obtain ⟨out, hout, hverified⟩ := h
    obtain ⟨answer, hanswer, hout⟩ := bind_eq_ok.mp hout
    rcases answer with _ | doc
    · cases hout
      cases hverified
    · obtain ⟨mismatch, hmismatch, hout⟩ := bind_eq_ok.mp hout
      rcases mismatch with _ | m
      · exact ⟨doc, ⟨uri, huri, hanswer⟩,
          firstMismatch_eq_none_of_reads.mp hmismatch⟩
      · cases hout
        cases hverified

structure HttpHeld (w : WitnessWorld) (req : HttpWitnessVerificationRequest)
    (r : FetchReply) : Prop where
  replied : w.fetch (httpFetch req) = .ok r
  status : JsNumber.int r.status = req.expectedStatus
  assertions : ∀ a ∈ req.assertions.getD [], ∃ text v, r.text = .ok text ∧
    getPointer (parsedBody text) (assertionPointer a) = .ok v ∧
    scalarMatches a.value v = true

theorem httpWitness_held {w : WitnessWorld}
    {req : HttpWitnessVerificationRequest}
    (h : (reconcileHttpWitness w req).status = .verified) :
    ∃ r, HttpHeld w req r := by
  unfold reconcileHttpWitness at h
  rw [caught_verified fun message => by simp [output]] at h
  obtain ⟨out, hout, hverified⟩ := h
  obtain ⟨r, hreply, hout⟩ := bind_eq_ok.mp hout
  split at hout
  · cases hout
    cases hverified
  · rename_i hstatus
    obtain ⟨text, htext, hout⟩ := bind_eq_ok.mp hout
    refine ⟨r, hreply, not_not.mp hstatus, ?_⟩
    intro a ha
    have hfield : (assertionPointer a, a.value) ∈ assertionFields req :=
      List.mem_map_of_mem ha
    dsimp only at hout
    split at hout
    · rename_i hnone
      rw [hnone] at hfield
      cases hfield
    · split at hout
      · cases hout
        cases hverified
      · obtain ⟨mismatch, hmismatch, hout⟩ := bind_eq_ok.mp hout
        rcases mismatch with _ | m
        · obtain ⟨v, hv, hmatch⟩ :=
            firstMismatch_eq_none.mp hmismatch _ hfield
          exact ⟨text, v, htext, hv, hmatch⟩
        · cases hout
          cases hverified

/-! ## All witnesses -/

/-- Every expectation of the request was compared with a reported value and
matched it. -/
def Held (w : WitnessWorld) : StateWitnessRequest → Prop
  | .vectorDocument req => VectorHeld w req
  | .objectStorageObject req => ∃ head, ObjectHeld w req head
  | .httpWitness req => ∃ r, HttpHeld w req r
  | .mongoDocument req => ∃ doc, MongoHeld w req doc

/-- The world answers the request in a way that the code accepts without checking
every expectation. -/
def Overlooked (w : WitnessWorld) : StateWitnessRequest → Prop
  | .vectorDocument req => req.expectPayloadSha256 = none ∧
      ∃ t, vectorTarget w req = .ok t ∧ VectorOverlooked w t req
  | .objectStorageObject req => ∃ head, ObjectOverlooked w req head
  | .httpWitness _ => False
  | .mongoDocument _ => False

/-- The texts of a resolved request are not empty. -/
def ResolvedTexts : StateWitnessRequest → Prop
  | .vectorDocument req =>
      req.expectPayloadSha256 ≠ some "" ∧ req.namespace_ ≠ some ""
  | .objectStorageObject req => req.expectEtag ≠ some ""
  | .httpWitness _ => True
  | .mongoDocument _ => True

theorem resolveOptional_ne_empty {params : Json} {label : String}
    {spec : Option RegistryStringSpec} {value : Option String}
    (h : resolveOptional spec (fun s => resolveStringSpec s params label) =
      .ok value) : value ≠ some "" := by
  rcases resolveOptional_ok h with ⟨-, rfl⟩ | ⟨s, v, -, rfl, hv⟩
  · simp
  · intro hempty
    exact resolveStringSpec_ne_empty hv (Option.some.inj hempty)

theorem resolveVectorDocumentSpec_texts {params : Json}
    {spec : VectorDocumentVerificationSpec}
    {req : VectorDocumentVerificationRequest}
    (h : resolveVectorDocumentSpec params spec "" = .ok req) :
    ResolvedTexts (.vectorDocument req) := by
  obtain ⟨documentId, -, h⟩ := bind_eq_ok.mp h
  obtain ⟨indexName, -, h⟩ := bind_eq_ok.mp h
  obtain ⟨ns, hns, h⟩ := bind_eq_ok.mp h
  obtain ⟨host, -, h⟩ := bind_eq_ok.mp h
  obtain ⟨metadata, -, h⟩ := bind_eq_ok.mp h
  obtain ⟨payload, hpayload, h⟩ := bind_eq_ok.mp h
  cases h
  exact ⟨resolveOptional_ne_empty hpayload, resolveOptional_ne_empty hns⟩

theorem resolveObjectStorageSpec_texts {params : Json}
    {spec : ObjectStorageVerificationSpec}
    {req : ObjectStorageVerificationRequest}
    (h : resolveObjectStorageSpec params spec "" = .ok req) :
    ResolvedTexts (.objectStorageObject req) := by
  obtain ⟨bucket, -, h⟩ := bind_eq_ok.mp h
  obtain ⟨key, -, h⟩ := bind_eq_ok.mp h
  obtain ⟨endpoint, -, h⟩ := bind_eq_ok.mp h
  obtain ⟨size, -, h⟩ := bind_eq_ok.mp h
  obtain ⟨sha, -, h⟩ := bind_eq_ok.mp h
  obtain ⟨etag, hetag, h⟩ := bind_eq_ok.mp h
  cases h
  exact resolveOptional_ne_empty hetag

theorem resolved_texts {entry : ToolRegistryEntry} {params : Json}
    {target : Option VerificationDatabaseKind} {req : StateWitnessRequest}
    (h : resolveVerificationRequest entry params target =
      .ok (.stateWitness req)) : ResolvedTexts req := by
  unfold resolveVerificationRequest at h
  split at h
  · obtain ⟨request, -, h⟩ := bind_eq_ok.mp h
    cases h
  · obtain ⟨request, -, h⟩ := bind_eq_ok.mp h
    cases h
  · obtain ⟨request, hrequest, h⟩ := bind_eq_ok.mp h
    cases h
    exact resolveVectorDocumentSpec_texts hrequest
  · obtain ⟨request, hrequest, h⟩ := bind_eq_ok.mp h
    cases h
    exact resolveObjectStorageSpec_texts hrequest
  · obtain ⟨request, -, h⟩ := bind_eq_ok.mp h
    cases h
    trivial
  · obtain ⟨request, -, h⟩ := bind_eq_ok.mp h
    cases h
    trivial
  · split at h
    · cases h
    · obtain ⟨request, -, h⟩ := bind_eq_ok.mp h
      cases h
  · obtain ⟨request, -, h⟩ := bind_eq_ok.mp h
    cases h

/-- Weaviate at a configured host answers every object request with one object. -/
def silverWeaviate : WitnessWorld where
  env name :=
    if name = "WEAVIATE_HOST" then some "weaviate.example"
    else if name = "WEAVIATE_API_KEY" then some "key"
    else none
  isAbsoluteHttpOrHttps _ := false
  fetch _ := .ok
    { status := 200
      text := .ok "\x7b\"properties\":\x7b\"tier\":\"silver\"\x7d\x7d" }
  jsonSyntaxError text := text
  headObject _ _ _ := .error ⟨some "NotFound", none, none, some 404, "NotFound"⟩
  getObject _ _ _ := .error ⟨some "NotFound", none, none, some 404, "NotFound"⟩
  sha256Hex _ := ""
  findOne _ _ _ := .ok none

/-- A document that is to have the metadata of the parameters. -/
def customerVector : ToolRegistryEntry where
  toolId := "index_customer"
  effectDescriptionTemplate := "Index the customer"
  releaseCritical := none
  verification := .vectorDocument
    { provider := .weaviate, documentId := .const "c1", indexName := .const "Customer"
      namespace_ := none, host := none, metadataEq := some "/metadata"
      expectPayloadSha256 := none }

def customerParams : Json := .obj [("metadata", .obj [("tier", .str "gold")])]

def customerRequest : StateWitnessRequest :=
  .vectorDocument
    { provider := .weaviate, documentId := "c1", indexName := "Customer"
      namespace_ := none, host := none
      metadataSubset := some [("tier", .str "gold")], expectPayloadSha256 := none }

theorem customerRequest_resolved :
    resolveVerificationRequest customerVector customerParams none =
      .ok (.stateWitness customerRequest) := by
  rfl

end AgentSkeptic.Engine
