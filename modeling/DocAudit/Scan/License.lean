import DocAudit.Rule.Basic
import DocAudit.Project
import DocAudit.Text.Letter

/-!
# The type of a project

A project is open source if one of its license files holds the words of an open-source license,
whatever the case of their letters. Main statement: a project without license files is internal.
-/

namespace DocAudit

open Text

/-- Where licenses are looked for. -/
def licenseFiles : List String := ["LICENSE", "LICENSE.md", "LICENSE.txt"]

/-- Words of open-source licenses, in capitals. -/
def licenseWords : List String :=
  ["MIT LICENSE", "APACHE LICENSE", "GNU GENERAL PUBLIC LICENSE",
    "GNU LESSER GENERAL PUBLIC", "BSD ", "MOZILLA PUBLIC LICENSE", "ISC LICENSE",
    "BOOST SOFTWARE LICENSE", "THE UNLICENSE", "CREATIVE COMMONS", "EUROPEAN UNION PUBLIC",
    "OPEN SOFTWARE LICENSE", "ARTISTIC LICENSE", "ZLIB LICENSE", "DO WHAT THE FUCK YOU WANT"]

/-- Whether a text holds the words of an open-source license. -/
def isOpenLicense (text : String) : Bool :=
  let capitals := upper text.toList
  licenseWords.any fun words => occursIn words.toList capitals

/-- Whether an open-source license stands in one of some files. -/
def anyOpenLicense (p : Project) : List String → Except Fault Bool
  | [] => .ok false
  | path :: rest => do
    if ← p.isFile path then
      if (p.read path).toOption.any isOpenLicense then return true
    anyOpenLicense p rest

/-- The type of a project by its license files. -/
def Project.type (p : Project) : Except Fault ProjectType :=
  (anyOpenLicense p licenseFiles).map fun isOpen => if isOpen then .openSource else .internal

theorem anyOpenLicense_of_isFile {p : Project} {paths : List String}
    (h : ∀ path ∈ paths, p.isFile path = .ok false) : anyOpenLicense p paths = .ok false := by
  induction paths with
  | nil => rfl
  | cons path rest ih =>
    simp only [anyOpenLicense, h path (by simp), bind, Except.bind, Bool.false_eq_true, if_false]
    exact ih fun q hq => h q (by simp [hq])

/-- A project without license files is internal. -/
theorem Project.type_of_isFile {p : Project}
    (h : ∀ path ∈ licenseFiles, p.isFile path = .ok false) :
    p.type = .ok .internal := by
  simp [Project.type, anyOpenLicense_of_isFile h, Except.map]

end DocAudit
