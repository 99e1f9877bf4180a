import ValeraControlTower.Dashboard.EvidenceLinks
import ValeraControlTower.Dashboard.Summary

/-!
# The page of `dashboard/render.py`

A template string is a list of pieces, written one after the other; a piece raises if a number
of it cannot be written.
-/

namespace ValeraControlTower

open Unicode Json LexicalPath

namespace Dashboard

variable {K : Type}

/-! ## Template strings -/

/-- A piece of text. -/
abbrev Piece := Except PyException PyStr

/-- The pieces, in order. -/
def sequence : List Piece → Except PyException (List PyStr)
  | [] => .ok []
  | piece :: pieces => do
      let text ← piece
      let texts ← sequence pieces
      return text :: texts

/-- An `f`-string. -/
def fstring (pieces : List Piece) : Piece := List.flatten <$> sequence pieces

/-- `separator.join(pieces)`. -/
def join (separator : String) (pieces : List Piece) : Piece :=
  (py separator).intercalate <$> sequence pieces

/-- A fixed text. -/
def fixed (text : String) : Piece := .ok (py text)

/-- Fixed lines. -/
def fixedLines (lines : List String) : Piece := .ok (lines.flatMap fun line => py line ++ py "\n")

/-- `_html`. -/
def html (host : Host K) (value : PyJson K) : Piece := escape <$> str host value

/-! ## The timeline -/

/-- `_payload_status`. -/
def payloadStatus (host : Host K) (event : PyPairs K) : Piece :=
  match get event "payload" (.obj []) with
  | .obj payload => str host (get payload "status" (.str []))
  | _ => .ok []

/-- A row of `_timeline_rows`. -/
def timelineRow (host : Host K) (event : PyPairs K) : Piece :=
  fstring [fixed "        <tr>",
    fixed "<td>", html host (get event "sequence" (.str [])), fixed "</td>",
    fixed "<td>", html host (get event "occurred_at" (.str [])), fixed "</td>",
    fixed "<td>", html host (get event "event_type" (.str [])), fixed "</td>",
    fixed "<td>", html host (get event "source" (.str [])), fixed "</td>",
    fixed "<td>", html host (get event "mode" (.str [])), fixed "</td>",
    fixed "<td>", escape <$> payloadStatus host event, fixed "</td>",
    fixed "</tr>"]

/-- `_timeline_rows`. -/
def timelineRows (host : Host K) (events : List (PyPairs K)) : Piece :=
  join "\n" (events.map (timelineRow host))

/-! ## Evidence -/

/-- A link to a file, and the image, if the reference is one. -/
def linkPieces (host : Host K) (ref : PyPairs K) (href : PyJson K) : List Piece :=
  [fixed "\n          <div class=\"evidence-link\"><a href=\"", html host href,
    fixed "\">Open evidence file</a></div>"] ++
  if isText (get ref "media_type" .null) "image/png" then
    [fixed "\n          <img src=\"", html host href, fixed "\" ",
      fixed "alt=\"Evidence preview for ", html host (get ref "evidence_id" (.str (py "evidence"))),
      fixed "\" class=\"evidence-preview\">"]
  else []

/-- `_evidence_link_and_preview`. -/
def evidenceLinkAndPreview (host : Host K) (ref : PyPairs K)
    (outputPath : Path CodePoint) : Piece :=
  match get ref "relative_path" .null with
  | .str relativePath =>
      if isSafeEvidencePath relativePath then
        fstring (linkPieces host ref
          (.str (relativeHrefFromDashboard host.cwd relativePath outputPath)))
      else .ok []
  | _ => .ok []

/-- The fields of a reference that `_evidence_ref_summary` shows. -/
def summaryFields : List String :=
  ["evidence_id", "relative_path", "media_type", "capture_mode", "source_adapter", "checksum"]

/-- One of `present_fields`; a field without a value is left out. -/
def presentField (host : Host K) (ref : PyPairs K) (label : String) : Option Piece :=
  match get ref label .null with
  | .null => none
  | value => some (fstring [fixed label, fixed ": ", html host value])

/-- `_evidence_ref_summary`. -/
def evidenceRefSummary (host : Host K) (outputPath : Path CodePoint) (ref : PyJson K) : Piece :=
  match ref with
  | .obj members =>
      fstring [join "; " (summaryFields.filterMap (presentField host members)),
        evidenceLinkAndPreview host members outputPath]
  | value => fstring [fixed "legacy_ref: ", html host value]

section Truth

variable [Zero K] [DecidableEq K]

/-- `bool(value)`. -/
def truthy : PyJson K → Bool
  | .null => false
  | .bool value => value
  | .num (.int value) => decide (value ≠ 0)
  | .num (.float (.finite value)) => decide (value ≠ 0)
  | .num (.float _) => true
  | .str text => !text.isEmpty
  | .arr items => !items.isEmpty
  | .obj members => !members.isEmpty

/-- `_evidence_section`. -/
def evidenceSection (host : Host K) (evidenceRefs : PyJson K)
    (outputPath : Path CodePoint) : Piece :=
  if truthy evidenceRefs = false then fixed "      <p>No evidence refs.</p>"
  else
    let refs :=
      match evidenceRefs with
      | .arr refs => refs
      | value => [value]
    fstring [fixedLines ["      <h4>Evidence refs</h4>", "      <ul class=\"evidence-list\">"],
      join "\n" (refs.map fun ref =>
        fstring [fixed "        <li>", evidenceRefSummary host outputPath ref, fixed "</li>"]),
      fixed "\n      </ul>"]

/-! ## Details -/

omit [Zero K] [DecidableEq K] in
/-- `_error_section`. -/
def errorSection (host : Host K) (error : PyJson K) : Piece :=
  match error with
  | .obj members =>
      fstring [fixedLines ["      <h4>Error details</h4>"],
        fixed "      <p>error.code: ", html host (get members "code" (.str [])),
        fixedLines ["</p>"],
        fixed "      <p>error.message: ", html host (get members "message" (.str [])),
        fixed "</p>"]
  | _ => .ok []

/-- `_detail_section`. -/
def detailSection (host : Host K) (outputPath : Path CodePoint) (event : PyPairs K) : Piece := do
  let sequence ← html host (get event "sequence" (.str []))
  let eventType ← html host (get event "event_type" (.str []))
  fstring [fixedLines ["    <article>"],
    fixed "      <h3>", .ok sequence, fixed ". ", .ok eventType, fixedLines ["</h3>"],
    fixedLines ["      <h4>Payload summary</h4>"],
    fixed "      <pre>", escape <$> dumps host 0 (get event "payload" (.obj [])),
    fixedLines ["</pre>"],
    evidenceSection host (get event "evidence_refs" (.arr [])) outputPath, fixedLines [""],
    errorSection host (get event "error" .null), fixedLines [""],
    fixed "    </article>"]

/-- `_detail_sections`. -/
def detailSections (host : Host K) (events : List (PyPairs K)) (outputPath : Path CodePoint) :
    Piece :=
  join "\n" (events.map (detailSection host outputPath))

/-! ## The page -/

/-- The style sheet of the page. -/
def styleSheet : List String :=
  ["    body \x7b",
    "      color: #172026;",
    "      font-family: Arial, sans-serif;",
    "      line-height: 1.45;",
    "      margin: 2rem;",
    "    \x7d",
    "    header, section \x7b",
    "      margin-bottom: 2rem;",
    "    \x7d",
    "    table \x7b",
    "      border-collapse: collapse;",
    "      width: 100%;",
    "    \x7d",
    "    th, td \x7b",
    "      border: 1px solid #c8d0d6;",
    "      padding: 0.5rem;",
    "      text-align: left;",
    "      vertical-align: top;",
    "    \x7d",
    "    th \x7b",
    "      background: #edf2f4;",
    "    \x7d",
    "    pre \x7b",
    "      background: #f6f8fa;",
    "      border: 1px solid #d8dee4;",
    "      overflow-x: auto;",
    "      padding: 0.75rem;",
    "      white-space: pre-wrap;",
    "    \x7d",
    "    article \x7b",
    "      border-top: 1px solid #d8dee4;",
    "      padding: 1rem 0;",
    "    \x7d",
    "    article:first-of-type \x7b",
    "      border-top: 0;",
    "    \x7d",
    "    .evidence-list \x7b",
    "      display: grid;",
    "      gap: 0.75rem;",
    "      list-style: none;",
    "      padding-left: 0;",
    "    \x7d",
    "    .evidence-list li \x7b",
    "      border: 1px solid #d8dee4;",
    "      padding: 0.75rem;",
    "    \x7d",
    "    .evidence-link \x7b",
    "      margin-top: 0.5rem;",
    "    \x7d",
    "    .evidence-preview \x7b",
    "      border: 1px solid #c8d0d6;",
    "      display: block;",
    "      height: auto;",
    "      margin-top: 0.5rem;",
    "      max-width: min(420px, 100%);",
    "    \x7d",
    "    .summary \x7b",
    "      display: grid;",
    "      gap: 0.75rem;",
    "      grid-template-columns: repeat(auto-fit, minmax(180px, 1fr));",
    "    \x7d",
    "    .summary div \x7b",
    "      border: 1px solid #c8d0d6;",
    "      padding: 0.75rem;",
    "    \x7d",
    "    .label \x7b",
    "      color: #52616b;",
    "      display: block;",
    "      font-size: 0.85rem;",
    "    \x7d"]

/-- `_render_html`. -/
def renderHtml (host : Host K) (events : List (PyPairs K)) (summary : DashboardSummary)
    (outputPath : Path CodePoint) : Piece :=
  fstring [fixedLines ["<!doctype html>", "<html lang=\"en\">", "<head>",
      "  <meta charset=\"utf-8\">"],
    fixed "  <title>Valera Mission Dashboard - ", html host (.str summary.taskId),
    fixedLines ["</title>", "  <style>"],
    fixedLines styleSheet,
    fixedLines ["  </style>", "</head>", "<body>", "  <header>",
      "    <h1>Valera Mission Dashboard</h1>"],
    fixed "    <h2>Task ", html host (.str summary.taskId),
    fixedLines ["</h2>", "    <div class=\"summary\">"],
    fixed "      <div><span class=\"label\">Final status</span>",
    html host (.str summary.finalStatus),
    fixedLines ["</div>"],
    fixed "      <div><span class=\"label\">Correlation id</span>",
    html host (.str summary.correlationId),
    fixedLines ["</div>"],
    fixed "      <div><span class=\"label\">Event count</span>",
    str host (.num (.int summary.eventCount)),
    fixedLines ["</div>", "    </div>", "  </header>", "  <section>",
      "    <h2>Event Timeline</h2>", "    <table>", "      <thead>", "        <tr>",
      "          <th>Sequence</th>", "          <th>Occurred at</th>",
      "          <th>Event type</th>", "          <th>Source</th>", "          <th>Mode</th>",
      "          <th>Payload status</th>", "        </tr>", "      </thead>", "      <tbody>"],
    timelineRows host events,
    fixedLines ["", "      </tbody>", "    </table>", "  </section>", "  <section>",
      "    <h2>Event Details</h2>"],
    detailSections host events outputPath,
    fixedLines ["", "  </section>", "</body>", "</html>"]]

/-- The text `render_dashboard` writes. -/
def renderDashboard (host : Host K) (events : List (PyPairs K)) (outputPath : Path CodePoint) :
    Piece := do
  let summary ← summarizeEvents host events
  renderHtml host events summary outputPath

end Truth

end Dashboard

end ValeraControlTower
