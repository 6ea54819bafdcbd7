import ForgeRuntime.Runtime.SessionTypes

/-!
# The text that starts a Grill round

`buildGrillingSkillInvocation` puts the skill file, the rules of the round and the snapshot manifest into one
message.  The file is read on every call; its content is an argument here, and the reader throws when it
cannot be read.
-/

namespace ForgeRuntime

open EventDriven EventDriven.Text

/-! ### Skill files -/

/-- The text behind the first closing fence, with the white space after it. -/
def afterFence : List Char → Option (List Char)
  | [] => none
  | c :: rest =>
      if "\n---".toList.isPrefixOf (c :: rest) then some ((rest.drop 3).dropWhile isSpace)
      else afterFence rest

/-- The texts behind the line breaks at the front of a text, the last line break first. -/
def afterLeadingBreaks : List Char → List (List Char)
  | [] => []
  | c :: rest =>
      if isSpace c then afterLeadingBreaks rest ++ (if c = '\n' then [rest] else [])
      else []

/-- `.replace(FRONTMATTER_PATTERN, "")`: drop a front matter between two fences. -/
def withoutFrontmatter (text : String) : String :=
  if startsWith text "---" then
    match (afterLeadingBreaks (text.toList.drop 3)).findSome? afterFence with
    | some rest => String.ofList rest
    | none => text
  else text

/-- The content of a skill file as it is handed on. -/
def skillContent (file : String) : String := trim (withoutFrontmatter file)

/-! ### The invocation -/

def GrillEvidenceKind.text : GrillEvidenceKind → String
  | .wiki => "wiki"
  | .codeBase => "code_base"
  | .target => "target"

/-- One line of the manifest. -/
def manifestLine (item : GrillEvidenceManifestEntry) : String :=
  "- " ++ item.candidateId ++ " [" ++ item.kind.text ++ "] " ++ item.title ++ " (" ++ item.source ++ ")" ++
    match item.rejection with
    | some rejection => if rejection = "" then "" else " [" ++ rejection ++ "]"
    | none => ""

/-- The rules of a round. -/
def grillRules : List String :=
  [ "正常輸出只能透過 forge_grill_evidence 與 forge_grill_complete；不得輸出 assistant prose、終局 JSON 或其他文字結果。",
    "Grill v1 僅允許 forge_grill_evidence 與 forge_grill_complete；所有其他工具（包含原生與未知工具）一律禁止。",
    "新 snapshot 的首輪完成前，必須使用 forge_grill_evidence 查核 snapshot manifest 中的 candidateId；同一 snapshot 的後續 round 可重用已查核 evidence。",
    "完成結果只能透過 forge_grill_complete 提交，不得以 assistant 文字或終局 JSON 取代。",
    "completion payload 欄位固定為：roundId、status、questions、recommendation、evidence、requiresUserConfirmation。",
    "若仍有一個最阻塞、必須由使用者決定的問題，status 輸出 NEEDS_CONFIRMATION。",
    "若資訊已足夠直接進 deep knowledge，status 輸出 READY_FOR_DEEP。",
    "NEEDS_CONFIRMATION 時，questions 只放一題，格式為 \x7b id, question, options \x7d。",
    "若回答語意仍不足，下一輪必須提出新的 clarification decision；不得重用已回答的 decisionId。",
    "READY_FOR_DEEP 時，questions 輸出空陣列。",
    "options 必須是字串陣列，例如 [\"A\", \"B\"]；不要輸出 \x7b id, value \x7d 物件；questions[].options[] 必須是可直接記錄為 decision 的完整答案；options 禁止使用「請輸入／請提供……」等操作指示；自由文字輸入責任交給 WAIT_USER UI。",
    "recommendation 格式為 \x7b value, reason, confidence \x7d。",
    "evidence 只放 evidence id 字串陣列。",
    "NEEDS_CONFIRMATION 時 requiresUserConfirmation 必須是 true。",
    "READY_FOR_DEEP 時 requiresUserConfirmation 必須是 false。",
    "可查核來源只限以下 snapshot manifest；不得猜測或傳入 path。",
    "forge_grill_evidence 只接受 manifest 中的 candidateId。" ]

def buildGrillingSkillInvocation (skillsDir file request roundId : String)
    (manifest : List GrillEvidenceManifestEntry) : String :=
  join "\n" (
    [ "<skill name=\"grilling\" location=\"" ++ skillsDir ++ "/grilling/SKILL.md\">",
      "References are relative to " ++ skillsDir ++ "/grilling.",
      "",
      skillContent file,
      "</skill>",
      "" ] ++
    grillRules ++
    (if roundId = "" then [] else
      [ "目前 Grill roundId: " ++ roundId,
        "完成時必須呼叫 forge_grill_complete；completion payload 必須原樣包含此 roundId。",
        "不得輸出 assistant 終局 JSON 代替 completion tool。" ]) ++
    manifest.map manifestLine ++
    [ "任務：" ++ request ])

end ForgeRuntime
