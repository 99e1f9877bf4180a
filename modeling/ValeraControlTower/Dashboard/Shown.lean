import ValeraControlTower.Dashboard.Render
import ValeraControlTower.Library.Intercalate

/-!
# What a page shows

A text that stands in a piece of a page stands in the page, whatever the other pieces are.
-/

namespace ValeraControlTower

open Unicode Json LexicalPath Robot

namespace Dashboard

variable {K : Type} {host : Host K} {text : PyStr}

/-- The text stands in the piece, if it can be written. -/
def Shows (text : PyStr) (piece : Piece) : Prop := ∀ page, piece = .ok page → text <:+: page

/-! ## Pieces -/

theorem shows_ok {page : PyStr} : Shows text (.ok page) ↔ text <:+: page := by
  constructor
  · intro shows
    exact shows page rfl
  · intro stands other same
    cases same
    exact stands

theorem shows_bind {α : Type} {outcome : Except PyException α} {next : α → Piece}
    (shows : ∀ value, Shows text (next value)) : Shows text (outcome >>= next) := by
  intro page made
  obtain ⟨value, _, made⟩ := bind_eq_ok made
  exact shows value page made

theorem mem_of_sequence {pieces : List Piece} {texts : List PyStr} {piece : Piece}
    (made : sequence pieces = .ok texts) (membership : piece ∈ pieces) :
    ∃ page ∈ texts, piece = .ok page := by
  induction pieces generalizing texts with
  | nil => cases membership
  | cons first rest inductionHypothesis =>
      obtain ⟨page, isFirst, made⟩ := bind_eq_ok made
      obtain ⟨pages, isRest, made⟩ := bind_eq_ok made
      cases made
      rcases List.mem_cons.mp membership with rfl | membership
      · exact ⟨page, List.mem_cons_self, isFirst⟩
      · obtain ⟨other, isOther, written⟩ := inductionHypothesis isRest membership
        exact ⟨other, List.mem_cons_of_mem page isOther, written⟩

theorem shows_fstring {pieces : List Piece} {piece : Piece} (i : ℕ)
    (isPiece : pieces[i]? = some piece) (shows : Shows text piece) :
    Shows text (fstring pieces) := by
  intro page made
  obtain ⟨texts, isSequence, rfl⟩ := map_eq_ok_iff.mp made
  obtain ⟨shown, membership, isShown⟩ := mem_of_sequence isSequence (List.mem_of_getElem? isPiece)
  exact (shows shown isShown).trans (List.infix_of_mem_flatten membership)

theorem shows_join {separator : String} {pieces : List Piece} {piece : Piece}
    (membership : piece ∈ pieces) (shows : Shows text piece) :
    Shows text (join separator pieces) := by
  intro page made
  obtain ⟨texts, isSequence, rfl⟩ := map_eq_ok_iff.mp made
  obtain ⟨shown, membership, isShown⟩ := mem_of_sequence isSequence membership
  exact (shows shown isShown).trans (Intercalate.part_infix membership)

theorem shows_fixedLines {lines : List String} {line : String} (membership : line ∈ lines)
    (stands : text <:+: py line) : Shows text (fixedLines lines) := by
  apply shows_ok.mpr
  rw [List.flatMap]
  have isLine : py line ++ py "\n" ∈ lines.map fun line => py line ++ py "\n" :=
    List.mem_map_of_mem membership
  have inLine : py line <:+: py line ++ py "\n" := (List.prefix_append _ _).isInfix
  exact (stands.trans inLine).trans (List.infix_of_mem_flatten isLine)

theorem shows_html {shown : PyStr} (stands : text <:+: escape shown) :
    Shows text (html host (.str shown)) := shows_ok.mpr stands

/-! ## The timeline -/

theorem shows_eventType {event : EventEnvelope K}
    (stands : text <:+: escape event.eventType.value) :
    Shows text (timelineRow host event.toDict) :=
  shows_fstring 8 rfl (shows_html stands)

theorem shows_source {event : EventEnvelope K} (stands : text <:+: escape event.source) :
    Shows text (timelineRow host event.toDict) :=
  shows_fstring 11 rfl (shows_html stands)

/-! ## Evidence -/

section Link

variable {ref : EvidenceRef} {outputPath : Path CodePoint}
  (safe : isSafeEvidencePath ref.relativePath = true)

include safe

theorem evidenceLinkAndPreview_toDict :
    evidenceLinkAndPreview host ref.toDict outputPath =
      fstring (linkPieces host ref.toDict
        (.str (relativeHrefFromDashboard host.cwd ref.relativePath outputPath))) :=
  if_pos safe

theorem shows_href : Shows (py "href=") (evidenceLinkAndPreview host ref.toDict outputPath) := by
  rw [evidenceLinkAndPreview_toDict safe]
  refine shows_fstring 0 rfl (shows_ok.mpr ?_)
  decide

theorem shows_img (isPng : ref.mediaType = py "image/png") :
    Shows (py "<img ") (evidenceLinkAndPreview host ref.toDict outputPath) := by
  have image : isText (get ref.toDict "media_type" .null : PyJson K) "image/png" = true :=
    isText_str.mpr isPng
  rw [evidenceLinkAndPreview_toDict safe, linkPieces, if_pos image]
  refine shows_fstring 3 rfl (shows_ok.mpr ?_)
  decide

end Link

section Page

variable [Zero K] [DecidableEq K] {events : List (PyPairs K)} {summary : DashboardSummary}
  {outputPath : Path CodePoint}

/-- What stands in the link of a reference stands in the details of its event. -/
theorem shows_link {event : EventEnvelope K} {ref : EvidenceRef}
    (membership : ref ∈ event.evidenceRefs)
    (shows : Shows text (evidenceLinkAndPreview host ref.toDict outputPath)) :
    Shows text (detailSection host outputPath event.toDict) := by
  refine shows_bind fun sequence => shows_bind fun eventType => shows_fstring 10 rfl ?_
  have isRefs : get event.toDict "evidence_refs" (.arr []) =
      .arr (event.evidenceRefs.map fun ref => (.obj ref.toDict : PyJson K)) := rfl
  have isMember : (.obj ref.toDict : PyJson K) ∈
      event.evidenceRefs.map fun ref => (.obj ref.toDict : PyJson K) :=
    List.mem_map_of_mem membership
  have notFalse : truthy (.arr (event.evidenceRefs.map fun ref => (.obj ref.toDict : PyJson K))) ≠
      false := by
    cases isEmpty : event.evidenceRefs with
    | nil =>
        rw [isEmpty] at membership
        cases membership
    | cons _ _ => nofun
  rw [isRefs, evidenceSection, if_neg notFalse]
  refine shows_fstring 1 rfl (shows_join (List.mem_map_of_mem isMember) ?_)
  exact shows_fstring 1 rfl (shows_fstring 1 rfl shows)

theorem shows_row {event : PyPairs K} (membership : event ∈ events)
    (shows : Shows text (timelineRow host event)) :
    Shows text (renderHtml host events summary outputPath) :=
  shows_fstring 18 rfl (shows_join (List.mem_map_of_mem membership) shows)

theorem shows_details {event : PyPairs K} (membership : event ∈ events)
    (shows : Shows text (detailSection host outputPath event)) :
    Shows text (renderHtml host events summary outputPath) :=
  shows_fstring 20 rfl (shows_join (List.mem_map_of_mem membership) shows)

theorem shows_finalStatus (stands : text <:+: escape summary.finalStatus) :
    Shows text (renderHtml host events summary outputPath) :=
  shows_fstring 10 rfl (shows_html stands)

theorem shows_label : Shows (py "Final status") (renderHtml host events summary outputPath) := by
  refine shows_fstring 9 rfl (shows_ok.mpr ?_)
  decide

theorem shows_previewClass :
    Shows (py "evidence-preview") (renderHtml host events summary outputPath) := by
  have isLine : "    .evidence-preview \x7b" ∈ styleSheet := by decide
  refine shows_fstring 4 rfl (shows_fixedLines isLine ?_)
  decide

end Page

end Dashboard

end ValeraControlTower
