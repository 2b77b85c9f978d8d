/-!
# The guide for audits

A text that leads through the audit of a project: the scan, the specifications and what to keep in
mind.
-/

namespace DocAudit.Server

/-- The call of a tool with the path of a project. -/
def toolCall (tool path : String) : String :=
  s!"\x60{tool}\x60 ツールを \x60path=\"{path}\"\x60 で実行してください。"

/-- The steps of the scan. -/
def scanSteps (path : String) : List String :=
  ["## Step 1: 構成スキャン",
   "",
   "1. " ++ toolCall "scan_project" path,
   "2. \x60summary\x60 の passed / failed / skipped を利用者に提示してください。",
   "3. \x60fail\x60 の結果は \x60violations\x60 のパスとメッセージを一覧にしてください。",
   "4. \x60skip\x60 の結果のうち \x60dependency check N failed\x60 のものは、" ++
     "前提チェックNを直せば評価されることを説明してください。",
   ""]

/-- The steps of the validation of specifications. -/
def specSteps (path : String) : List String :=
  ["## Step 2: specファイル検証",
   "",
   "1. " ++ toolCall "validate_specs" path,
   "2. \x60parse_error\x60 は構文の問題、\x60schema_error\x60 は必須フィールドやID形式の問題です。",
   "3. " ++ toolCall "cross_reference_specs" path,
   "4. 失敗したアサーションをカテゴリ（dependency, sdlc_chain, inventory, " ++
     "test_trace, arch_trace, related_docs）ごとに整理してください。",
   ""]

/-- What to keep in mind. -/
def notes : List String :=
  ["## 注意事項",
   "",
   "- ルールの内容は \x60docengine://rules/default\x60 リソースで確認できます。",
   "- severityが error の違反を優先し、warning / info は推奨事項として扱ってください。",
   "- 修正案は該当ファイルのパスとともに提示してください。ファイルを勝手に書き換えてはいけません。"]

/-- The guide for the audit of the project at a path. -/
def guide (path : String) : String :=
  "\n".intercalate <|
    ["# ドキュメントコンプライアンス監査ワークフロー",
     "",
     s!"プロジェクト \x60{path}\x60 のドキュメント構成とspecファイルを監査します。",
     ""] ++ scanSteps path ++ specSteps path ++ notes ++ [""]

end DocAudit.Server
