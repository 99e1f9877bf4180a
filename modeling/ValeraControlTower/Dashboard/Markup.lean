import ValeraControlTower.Dashboard.Render
import ValeraControlTower.Library.JsonShape

/-!
# What events contribute to the markup

Every piece of a page that comes from an event is escaped, so the characters that open or
close tags and attributes depend on the shape of the events only, and on which evidence is
linked and shown.
-/

namespace ValeraControlTower

open Unicode Json Json.Tree LexicalPath

namespace Dashboard

variable {K : Type}

/-! ## Markup characters -/

/-- `<`, `>`, `"` and `'`. -/
def isMarkup (point : CodePoint) : Bool :=
  point = CodePoint.ofChar '<' || point = CodePoint.ofChar '>' || point = CodePoint.ofChar '"' ||
    point = CodePoint.ofChar '\''

/-- The markup characters of a text, in order. -/
def markup (text : PyStr) : PyStr := text.filter isMarkup

theorem markup_append (first second : PyStr) :
    markup (first ++ second) = markup first ++ markup second := List.filter_append _ _

theorem markup_escapeChar (point : CodePoint) : markup (escapeChar point) = [] := by
  unfold escapeChar
  split
  · decide
  · split
    · decide
    · split
      · decide
      · split
        · decide
        · split
          · decide
          · simp [markup, isMarkup, *]

/-- Escaped text has no markup. -/
theorem markup_escape (text : PyStr) : markup (escape text) = [] := by
  induction text with
  | nil => rfl
  | cons point text inductionHypothesis =>
      have escaped : escape (point :: text) = escapeChar point ++ escape text := rfl
      rw [escaped, markup_append, markup_escapeChar, inductionHypothesis]
      rfl

theorem markup_flatten (texts : List PyStr) :
    markup texts.flatten = (texts.map markup).flatten := by
  induction texts with
  | nil => rfl
  | cons text texts inductionHypothesis =>
      rw [List.flatten_cons, markup_append, inductionHypothesis]
      rfl

theorem markup_intercalate (separator : PyStr) (texts : List PyStr) :
    markup (separator.intercalate texts) = (markup separator).intercalate (texts.map markup) := by
  unfold List.intercalate
  rw [markup_flatten]
  congr 1
  induction texts with
  | nil => rfl
  | cons text texts inductionHypothesis =>
      cases texts with
      | nil => rfl
      | cons other texts => simp_all [List.intersperse]

/-! ## Pieces with the same markup -/

/-- The pieces raise the same, or have the same markup. -/
def Alike (first second : Piece) : Prop := markup <$> first = markup <$> second

/-- The calls raise the same, or both return. -/
def EndAlike {α : Type} (first second : Except PyException α) : Prop :=
  (fun _ => ()) <$> first = (fun _ => ()) <$> second

theorem Alike.refl (piece : Piece) : Alike piece piece := rfl

/-- Escaped pieces are alike if they are both there. -/
theorem escape_alike {first second : Piece} (alike : EndAlike first second) :
    Alike (escape <$> first) (escape <$> second) := by
  cases first with
  | error _ =>
      cases second with
      | error _ =>
          cases alike
          rfl
      | ok _ => cases alike
  | ok text =>
      cases second with
      | error _ => cases alike
      | ok text' => exact congrArg Except.ok ((markup_escape text).trans (markup_escape text').symm)

theorem sequence_alike {pieces pieces' : List Piece} (alike : List.Forall₂ Alike pieces pieces') :
    List.map markup <$> sequence pieces = List.map markup <$> sequence pieces' := by
  induction alike with
  | nil => rfl
  | @cons first second pieces pieces' alike _ inductionHypothesis =>
      unfold sequence
      cases first with
      | error _ =>
          cases second with
          | error _ =>
              cases alike
              rfl
          | ok _ => cases alike
      | ok text =>
          cases second with
          | error _ => cases alike
          | ok text' =>
              have same : markup text = markup text' := Except.ok.inj alike
              revert inductionHypothesis
              cases sequence pieces with
              | error _ =>
                  cases sequence pieces' with
                  | error _ =>
                      intro rest
                      cases rest
                      rfl
                  | ok _ => exact nofun
              | ok texts =>
                  cases sequence pieces' with
                  | error _ => exact nofun
                  | ok texts' =>
                      intro rest
                      have rest : texts.map markup = texts'.map markup := Except.ok.inj rest
                      change Except.ok (markup text :: texts.map markup) =
                        Except.ok (markup text' :: texts'.map markup)
                      rw [same, rest]

/-- What is made of the texts of alike pieces is alike, if its markup is made of theirs. -/
theorem combine_alike {pieces pieces' : List Piece} (alike : List.Forall₂ Alike pieces pieces')
    {write : List PyStr → PyStr} {write' : List PyStr → PyStr}
    (writes : ∀ texts, markup (write texts) = write' (texts.map markup)) :
    Alike (write <$> sequence pieces) (write <$> sequence pieces') := by
  have written (outcome : Except PyException (List PyStr)) :
      markup <$> write <$> outcome = write' <$> List.map markup <$> outcome := by
    cases outcome with
    | error _ => rfl
    | ok texts => exact congrArg Except.ok (writes texts)
  unfold Alike
  rw [written, written, sequence_alike alike]

theorem fstring_alike {pieces pieces' : List Piece} (alike : List.Forall₂ Alike pieces pieces') :
    Alike (fstring pieces) (fstring pieces') :=
  combine_alike alike markup_flatten

theorem join_alike (separator : String) {pieces pieces' : List Piece}
    (alike : List.Forall₂ Alike pieces pieces') :
    Alike (join separator pieces) (join separator pieces') :=
  combine_alike alike (markup_intercalate (py separator))

/-! ## Values of one shape -/

/-- What goes on behind calls that raise the same or both return. -/
theorem EndAlike.map_bind {α β γ : Type} {first second : Except PyException α}
    (alike : EndAlike first second) {next next' : α → Except PyException β} {write : β → γ}
    (later : ∀ value value', write <$> next value = write <$> next' value') :
    write <$> (first >>= next) = write <$> (second >>= next') := by
  cases first with
  | error _ =>
      cases second with
      | error _ =>
          cases alike
          rfl
      | ok _ => cases alike
  | ok value =>
      cases second with
      | error _ => cases alike
      | ok value' => exact later value value'

theorem EndAlike.bind {α β : Type} {first second : Except PyException α}
    (alike : EndAlike first second) {next next' : α → Except PyException β}
    (later : ∀ value value', EndAlike (next value) (next' value')) :
    EndAlike (first >>= next) (second >>= next') :=
  alike.map_bind later

theorem EndAlike.ok {α : Type} (value value' : α) :
    EndAlike (.ok value : Except PyException α) (.ok value') := rfl

mutual

/-- Whether a value can be written depends on its numbers only. -/
theorem repr_fill (host : Host K) (text : PyStr) (value : PyJson K) :
    EndAlike (repr host (value.fill text)) (repr host value) := by
  cases value with
  | null | bool _ | num _ => rfl
  | str _ => rfl
  | arr items => exact (reprItems_fill host text items).bind fun _ _ => .ok _ _
  | obj members => exact (reprMembers_fill host text members).bind fun _ _ => .ok _ _

theorem reprItems_fill (host : Host K) (text : PyStr) (items : List (PyJson K)) :
    EndAlike (reprItems host (fillItems text items)) (reprItems host items) := by
  cases items with
  | nil => rfl
  | cons item items =>
      apply (repr_fill host text item).bind
      intro _ _
      exact (reprItems_fill host text items).bind fun _ _ => .ok _ _

theorem reprMembers_fill (host : Host K) (text : PyStr) (members : PyPairs K) :
    EndAlike (reprMembers host (fillMembers text members)) (reprMembers host members) := by
  cases members with
  | nil => rfl
  | cons member members =>
      apply (repr_fill host text member.2).bind
      intro _ _
      exact (reprMembers_fill host text members).bind fun _ _ => .ok _ _

end

mutual

theorem dumps_fill (host : Host K) (text : PyStr) (level : ℕ) (value : PyJson K) :
    EndAlike (dumps host level (value.fill text)) (dumps host level value) := by
  cases value with
  | null | bool _ | num _ => rfl
  | str _ => rfl
  | arr items =>
      cases items with
      | nil => rfl
      | cons item items =>
          exact (dumpsItems_fill host text (level + 1) (item :: items)).bind fun _ _ => .ok _ _
  | obj members =>
      cases members with
      | nil => rfl
      | cons member members =>
          exact (dumpsMembers_fill host text (level + 1) (member :: members)).bind
            fun _ _ => .ok _ _

theorem dumpsItems_fill (host : Host K) (text : PyStr) (level : ℕ) (items : List (PyJson K)) :
    EndAlike (dumpsItems host level (fillItems text items)) (dumpsItems host level items) := by
  cases items with
  | nil => rfl
  | cons item items =>
      apply (dumps_fill host text level item).bind
      intro _ _
      exact (dumpsItems_fill host text level items).bind fun _ _ => .ok _ _

theorem dumpsMembers_fill (host : Host K) (text : PyStr) (level : ℕ) (members : PyPairs K) :
    EndAlike (dumpsMembers host level (fillMembers text members))
      (dumpsMembers host level members) := by
  cases members with
  | nil => rfl
  | cons member members =>
      apply (dumps_fill host text level member.2).bind
      intro _ _
      exact (dumpsMembers_fill host text level members).bind fun _ _ => .ok _ _

end

variable {host : Host K} {value value' : PyJson K}

theorem repr_endAlike (same : SameShape value value') :
    EndAlike (repr host value) (repr host value') := by
  have first := repr_fill host default value
  rw [same] at first
  exact first.symm.trans (repr_fill host default value')

theorem str_endAlike (same : SameShape value value') :
    EndAlike (str host value) (str host value') := by
  cases same.view with
  | null | bool _ | num _ => rfl
  | str _ _ => rfl
  | arr _ => exact repr_endAlike same
  | obj _ => exact repr_endAlike same

theorem html_alike (same : SameShape value value') : Alike (html host value) (html host value') :=
  escape_alike (str_endAlike same)

theorem dumps_endAlike (same : SameShape value value') (level : ℕ) :
    EndAlike (dumps host level value) (dumps host level value') := by
  have first := dumps_fill host default level value
  rw [same] at first
  exact first.symm.trans (dumps_fill host default level value')

/-! ## Events of one shape -/

variable {event event' : PyPairs K}

/-- What events of one shape have for a key is of one shape. -/
theorem get_sameShape (same : SameShape (.obj event : PyJson K) (.obj event')) (key : String)
    (default' : PyJson K) : SameShape (get event key default') (get event' key default') :=
  same.lookup (py key) default'

theorem html_get_alike (same : SameShape (.obj event : PyJson K) (.obj event')) (key : String)
    (default' : PyJson K) :
    Alike (html host (get event key default')) (html host (get event' key default')) :=
  html_alike (get_sameShape same key default')

theorem payloadStatus_endAlike (same : SameShape (.obj event : PyJson K) (.obj event')) :
    EndAlike (payloadStatus host event) (payloadStatus host event') := by
  have payloads := (get_sameShape same "payload" (.obj [])).view
  unfold payloadStatus
  generalize get event "payload" (.obj []) = payload at payloads
  generalize get event' "payload" (.obj []) = payload' at payloads
  cases payloads with
  | null | bool _ | num _ => rfl
  | str _ _ | arr _ => rfl
  | obj same => exact str_endAlike (get_sameShape same "status" (.str []))

theorem timelineRow_alike (same : SameShape (.obj event : PyJson K) (.obj event')) :
    Alike (timelineRow host event) (timelineRow host event') := by
  apply fstring_alike
  simp only [List.forall₂_cons, Alike.refl, html_get_alike same,
    escape_alike (payloadStatus_endAlike same), List.Forall₂.nil, true_and]

theorem errorSection_alike {error error' : PyJson K} (same : SameShape error error') :
    Alike (errorSection host error) (errorSection host error') := by
  cases same.view with
  | null | bool _ | num _ => rfl
  | str _ _ | arr _ => rfl
  | obj same =>
      apply fstring_alike
      simp only [List.forall₂_cons, Alike.refl, html_get_alike same, List.Forall₂.nil, true_and]

/-! ## Evidence -/

/-- The reference has a path that is linked. -/
def linked : PyJson K → Bool
  | .obj ref =>
      match get ref "relative_path" .null with
      | .str relativePath => isSafeEvidencePath relativePath
      | _ => false
  | _ => false

/-- The reference is one to an image that is shown. -/
def shown : PyJson K → Bool
  | .obj ref => isText (get ref "media_type" .null) "image/png"
  | _ => false

/-- References of one shape, of which both are linked and shown, or neither. -/
structure SameEvidence (ref ref' : PyJson K) : Prop where
  sameShape : SameShape ref ref'
  sameLink : linked ref = linked ref'
  sameImage : shown ref = shown ref'

variable {ref ref' : PyPairs K} {outputPath : Path CodePoint}

theorem linkPieces_alike (same : SameShape (.obj ref : PyJson K) (.obj ref'))
    (sameImage : shown (.obj ref) = shown (.obj ref')) (href href' : PyStr) :
    List.Forall₂ Alike (linkPieces host ref (.str href)) (linkPieces host ref' (.str href')) := by
  have links : Alike (html host (.str href)) (html host (.str href')) :=
    html_alike (.str href href')
  unfold linkPieces
  apply List.rel_append
  · simp only [List.forall₂_cons, Alike.refl, links, List.Forall₂.nil, true_and]
  · rw [show isText (get ref "media_type" .null) "image/png" = _ from sameImage]
    change List.Forall₂ Alike (ite _ _ _) (ite (shown (.obj ref') = true) _ _)
    split
    · simp only [List.forall₂_cons, Alike.refl, links, html_get_alike same, List.Forall₂.nil,
        true_and]
    · exact .nil

theorem evidenceLinkAndPreview_alike (same : SameShape (.obj ref : PyJson K) (.obj ref'))
    (sameLink : linked (.obj ref) = linked (.obj ref'))
    (sameImage : shown (.obj ref) = shown (.obj ref')) :
    Alike (evidenceLinkAndPreview host ref outputPath)
      (evidenceLinkAndPreview host ref' outputPath) := by
  have paths := (get_sameShape same "relative_path" .null).view
  unfold linked at sameLink
  dsimp only at sameLink
  unfold evidenceLinkAndPreview
  generalize isPath : get ref "relative_path" .null = path at paths
  generalize isPath' : get ref' "relative_path" .null = path' at paths
  rw [isPath, isPath'] at sameLink
  cases paths with
  | null | bool _ | num _ => rfl
  | arr _ | obj _ => rfl
  | str relativePath relativePath' =>
      dsimp only at sameLink ⊢
      rw [sameLink]
      split
      · exact fstring_alike (linkPieces_alike same sameImage _ _)
      · rfl

/-- The fields that are shown. -/
theorem presentFields_alike (same : SameShape (.obj ref : PyJson K) (.obj ref'))
    (labels : List String) :
    List.Forall₂ Alike (labels.filterMap (presentField host ref))
      (labels.filterMap (presentField host ref')) := by
  induction labels with
  | nil => exact .nil
  | cons label labels inductionHypothesis =>
      have fields := get_sameShape same label .null
      have field : (presentField host ref label = none ∧ presentField host ref' label = none) ∨
          ∃ piece piece', presentField host ref label = some piece ∧
            presentField host ref' label = some piece' ∧ Alike piece piece' := by
        unfold presentField
        generalize get ref label .null = value at fields
        generalize get ref' label .null = value' at fields
        have written : Alike (fstring [fixed label, fixed ": ", html host value])
            (fstring [fixed label, fixed ": ", html host value']) := by
          apply fstring_alike
          simp only [List.forall₂_cons, Alike.refl, html_alike fields, List.Forall₂.nil, true_and]
        cases fields.view with
        | null => exact .inl ⟨rfl, rfl⟩
        | bool _ | num _ => exact .inr ⟨_, _, rfl, rfl, written⟩
        | str _ _ | arr _ | obj _ => exact .inr ⟨_, _, rfl, rfl, written⟩
      rcases field with ⟨first, second⟩ | ⟨piece, piece', first, second, alike⟩
      · rw [List.filterMap_cons_none first, List.filterMap_cons_none second]
        exact inductionHypothesis
      · rw [List.filterMap_cons_some first, List.filterMap_cons_some second]
        exact .cons alike inductionHypothesis

theorem evidenceRefSummary_alike (same : SameEvidence value value') :
    Alike (evidenceRefSummary host outputPath value)
      (evidenceRefSummary host outputPath value') := by
  obtain ⟨sameShape, sameLink, sameImage⟩ := same
  have legacy : Alike (fstring [fixed "legacy_ref: ", html host value])
      (fstring [fixed "legacy_ref: ", html host value']) := by
    apply fstring_alike
    simp only [List.forall₂_cons, Alike.refl, html_alike sameShape, List.Forall₂.nil, true_and]
  cases sameShape.view with
  | null | bool _ | num _ => exact legacy
  | str _ _ | arr _ => exact legacy
  | obj same =>
      apply fstring_alike
      simp only [List.forall₂_cons, join_alike "; " (presentFields_alike same summaryFields),
        evidenceLinkAndPreview_alike same sameLink sameImage, List.Forall₂.nil, true_and]

variable [Zero K] [DecidableEq K]

theorem evidenceSection_alike {refs refs' : List (PyJson K)}
    (same : List.Forall₂ SameEvidence refs refs') :
    Alike (evidenceSection host (.arr refs) outputPath)
      (evidenceSection host (.arr refs') outputPath) := by
  have items : List.Forall₂ Alike
      (refs.map fun ref =>
        fstring [fixed "        <li>", evidenceRefSummary host outputPath ref, fixed "</li>"])
      (refs'.map fun ref =>
        fstring [fixed "        <li>", evidenceRefSummary host outputPath ref, fixed "</li>"]) := by
    rw [List.forall₂_map_left_iff, List.forall₂_map_right_iff]
    apply same.imp
    intro ref ref' same
    apply fstring_alike
    simp only [List.forall₂_cons, Alike.refl, evidenceRefSummary_alike same, List.Forall₂.nil,
      true_and]
  cases same with
  | nil => rfl
  | cons _ _ =>
      apply fstring_alike
      simp only [List.forall₂_cons, Alike.refl, true_and]
      exact ⟨join_alike "\n" items, .nil⟩

/-! ## Pages -/

/-- The evidence references of an event. -/
def evidenceRefs (event : PyPairs K) : List (PyJson K) :=
  match get event "evidence_refs" (.arr []) with
  | .arr refs => refs
  | _ => []

/-- Events that differ in their texts only, with the same evidence linked and shown. -/
structure Relabelled (event event' : PyPairs K) : Prop where
  sameShape : SameShape (.obj event : PyJson K) (.obj event')
  sameEvidence : List.Forall₂ (fun ref ref' => linked ref = linked ref' ∧ shown ref = shown ref')
    (evidenceRefs event) (evidenceRefs event')

/-- The evidence of an event is a list, if there is any. -/
def ListsEvidence (event : PyPairs K) : Prop :=
  ∀ value, event.lookup (py "evidence_refs") = some value → ∃ refs, value = .arr refs

omit [Zero K] [DecidableEq K] in
theorem ListsEvidence.refs (lists : ListsEvidence event) :
    get event "evidence_refs" (.arr []) = .arr (evidenceRefs event) := by
  unfold evidenceRefs get
  cases found : event.lookup (py "evidence_refs") with
  | none => rfl
  | some value =>
      obtain ⟨refs, rfl⟩ := lists value found
      rfl

omit [Zero K] [DecidableEq K] in
/-- Relabelled events list the same evidence. -/
theorem Relabelled.refs (relabelled : Relabelled event event') (lists : ListsEvidence event) :
    get event' "evidence_refs" (.arr []) = .arr (evidenceRefs event') ∧
      List.Forall₂ SameEvidence (evidenceRefs event) (evidenceRefs event') := by
  obtain ⟨same, sameEvidence⟩ := relabelled
  have shapes := get_sameShape same "evidence_refs" (.arr [])
  rw [lists.refs] at shapes
  have isList : get event' "evidence_refs" (.arr []) = .arr (evidenceRefs event') := by
    unfold evidenceRefs
    generalize get event' "evidence_refs" (.arr []) = value at shapes
    cases shapes.view with
    | arr _ => rfl
  rw [isList] at shapes
  refine ⟨isList, List.Forall₂.mp ?_ (forall₂_sameShape.mpr shapes) sameEvidence⟩
  exact fun _ _ sameShape both => ⟨sameShape, both.1, both.2⟩

omit [Zero K] [DecidableEq K] in
theorem Alike.bind {first second : Piece} (alike : Alike first second) {next next' : PyStr → Piece}
    (later : ∀ text text', markup text = markup text' → Alike (next text) (next' text')) :
    Alike (first >>= next) (second >>= next') := by
  cases first with
  | error _ =>
      cases second with
      | error _ =>
          cases alike
          rfl
      | ok _ => cases alike
  | ok text =>
      cases second with
      | error _ => cases alike
      | ok text' => exact later text text' (Except.ok.inj alike)

theorem detailSection_alike (lists : ListsEvidence event) (relabelled : Relabelled event event') :
    Alike (detailSection host outputPath event) (detailSection host outputPath event') := by
  obtain ⟨isList, evidence⟩ := relabelled.refs lists
  have same := relabelled.sameShape
  have sections : Alike
      (evidenceSection host (get event "evidence_refs" (.arr [])) outputPath)
      (evidenceSection host (get event' "evidence_refs" (.arr [])) outputPath) := by
    rw [lists.refs, isList]
    exact evidenceSection_alike evidence
  have errors : Alike (errorSection host (get event "error" .null))
      (errorSection host (get event' "error" .null)) :=
    errorSection_alike (get_sameShape same "error" .null)
  have payloads := escape_alike
    (@dumps_endAlike K host _ _ (get_sameShape same "payload" (.obj [])) 0)
  unfold detailSection
  apply (html_get_alike same "sequence" (.str [])).bind
  intro sequence sequence' sameSequence
  apply (html_get_alike same "event_type" (.str [])).bind
  intro eventType eventType' sameType
  have numbered : Alike (.ok sequence) (.ok sequence') := congrArg Except.ok sameSequence
  have typed : Alike (.ok eventType) (.ok eventType') := congrArg Except.ok sameType
  apply fstring_alike
  simp only [List.forall₂_cons, Alike.refl, numbered, typed, payloads, sections, errors,
    List.Forall₂.nil, true_and]

variable {events events' : List (PyPairs K)}

theorem renderHtml_alike (lists : ∀ event ∈ events, ListsEvidence event)
    (relabelled : List.Forall₂ Relabelled events events') {summary summary' : DashboardSummary}
    (sameCount : summary.eventCount = summary'.eventCount) :
    Alike (renderHtml host events summary outputPath)
      (renderHtml host events' summary' outputPath) := by
  have rows : Alike (timelineRows host events) (timelineRows host events') := by
    apply join_alike
    rw [List.forall₂_map_left_iff, List.forall₂_map_right_iff]
    exact relabelled.imp fun _ _ related => timelineRow_alike related.sameShape
  have details : Alike (detailSections host events outputPath)
      (detailSections host events' outputPath) := by
    apply join_alike
    rw [List.forall₂_map_left_iff, List.forall₂_map_right_iff]
    apply ((List.forall₂_and_left _ _).mpr ⟨lists, relabelled⟩).imp
    exact fun _ _ related => detailSection_alike related.1 related.2
  have texts (text text' : PyStr) : Alike (html host (.str text)) (html host (.str text')) :=
    html_alike (.str text text')
  have counts : Alike (str host (.num (.int summary.eventCount)))
      (str host (.num (.int summary'.eventCount))) := by
    rw [sameCount]
    exact .refl _
  apply fstring_alike
  simp only [List.forall₂_cons, Alike.refl, texts, rows, details, counts, List.Forall₂.nil,
    true_and]

omit [Zero K] [DecidableEq K] in
theorem getD_sameShape {first second : Option (PyPairs K)}
    (related : Option.Rel Relabelled first second) :
    SameShape (.obj (first.getD []) : PyJson K) (.obj (second.getD [])) := by
  cases related with
  | none => exact .refl _
  | some related => exact related.sameShape

omit [Zero K] [DecidableEq K] in
/-- The summaries are both there, and count the same events. -/
theorem summarizeEvents_alike (relabelled : List.Forall₂ Relabelled events events') :
    DashboardSummary.eventCount <$> summarizeEvents host events =
      DashboardSummary.eventCount <$> summarizeEvents host events' := by
  have heads : Option.Rel Relabelled events.head? events'.head? := by
    cases relabelled with
    | nil => exact .none
    | cons first _ => exact .some first
  have shapes := getD_sameShape heads
  have tasks := @str_endAlike K host _ _ (get_sameShape shapes "task_id" (.str (py "unknown")))
  have correlations :=
    @str_endAlike K host _ _ (get_sameShape shapes "correlation_id" (.str (py "unknown")))
  have counts := relabelled.length_eq
  apply tasks.map_bind
  intro _ _
  apply correlations.map_bind
  intro _ _
  exact congrArg Except.ok counts

/-- Pages of events that differ in their texts only have the same markup, if the same evidence
is linked and shown. -/
theorem renderDashboard_alike (host : Host K) (outputPath : Path CodePoint)
    (lists : ∀ event ∈ events, ListsEvidence event)
    (relabelled : List.Forall₂ Relabelled events events') :
    markup <$> renderDashboard host events outputPath =
      markup <$> renderDashboard host events' outputPath := by
  have summaries := @summarizeEvents_alike K host events events' relabelled
  unfold renderDashboard
  cases summarized : summarizeEvents host events with
  | error _ =>
      rw [summarized] at summaries
      cases summarized' : summarizeEvents host events' with
      | error _ =>
          rw [summarized'] at summaries
          cases summaries
          rfl
      | ok _ =>
          rw [summarized'] at summaries
          cases summaries
  | ok summary =>
      rw [summarized] at summaries
      cases summarized' : summarizeEvents host events' with
      | error _ =>
          rw [summarized'] at summaries
          cases summaries
      | ok summary' =>
          rw [summarized'] at summaries
          exact renderHtml_alike lists relabelled (Except.ok.inj summaries)

/-- An event with an image as evidence. -/
def evidenceEvent (note evidenceId : String) : PyPairs ℚ :=
  [(py "event_type", .str (py "object.found")), (py "payload", .obj [(py "note", .str (py note))]),
    (py "evidence_refs", .arr [.obj [(py "evidence_id", .str (py evidenceId)),
      (py "relative_path", .str (py "data/evidence/t/e-raw.png")),
      (py "media_type", .str (py "image/png"))]])]

/-- A script in the texts of an event does not get into the page. -/
theorem renderDashboard_alike_script :
    markup <$> renderDashboard (Host.ascii []) [evidenceEvent "found" "e"]
        (parse Robot.posix (py "/srv/data/runs/t/dashboard.html")) =
      markup <$> renderDashboard (Host.ascii [])
        [evidenceEvent "\"><script>alert('x')</script>" "' onerror='alert(1)"]
        (parse Robot.posix (py "/srv/data/runs/t/dashboard.html")) := by
  apply renderDashboard_alike
  · intro event membership value found
    rw [List.mem_singleton.mp membership] at found
    exact ⟨_, (Option.some.inj found).symm⟩
  · exact .cons ⟨rfl, .cons ⟨rfl, rfl⟩ .nil⟩ .nil

end Dashboard

end ValeraControlTower
