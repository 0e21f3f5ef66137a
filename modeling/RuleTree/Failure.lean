import RuleTree.Json.Mismatch

/-!
Why an operation on rules fails. Failures to look up a referenced rule are told apart from the rest:
a missing rule, a cycle of references, and conditions nested too deeply.
-/

namespace RuleTree

inductive FileFault
  | notFound
  | isDirectory
  | notDirectory
  | notText
  | denied
  | tooLong
  | notName
deriving DecidableEq, Repr

def FileFault.message : FileFault → String
  | .notFound => "No such file or directory (os error 2)"
  | .isDirectory => "Is a directory (os error 21)"
  | .notDirectory => "Not a directory (os error 20)"
  | .notText => "stream did not contain valid UTF-8"
  | .denied => "Permission denied (os error 13)"
  | .tooLong => "File name too long (os error 36)"
  | .notName => "file name contained an unexpected NUL byte"

inductive Failure
  | notFound (id : String)
  | invalidRule (id message : String) (element : Json)
  | malformedNode (message : String) (element : Json)
  | referenceCycle (chain : List String)
  | tooDeep (limit : Nat)
  | unreadable (path : String) (fault : FileFault)
  | badJson (error : ReadError)

namespace Failure

/-- The code by which programs tell failures apart. -/
def code : Failure → String
  | .notFound _ => "RULE_NOT_FOUND"
  | .invalidRule .. => "INVALID_RULE"
  | .malformedNode .. => "MALFORMED_NODE"
  | .referenceCycle _ => "RULE_REFERENCE_CYCLE"
  | .tooDeep _ => "DEPTH_EXCEEDED"
  | .unreadable .. => "IO_ERROR"
  | .badJson _ => "JSON_ERROR"

/-- Whether a referenced rule could not be looked up. -/
def isLookup : Failure → Bool
  | .notFound _ | .referenceCycle _ | .tooDeep _ => true
  | _ => false

def message : Failure → String
  | .notFound id => "规则未找到: " ++ id
  | .invalidRule id message _ => "规则无效: rule_id=" ++ id ++ ", " ++ message
  | .malformedNode message _ => "无法识别的规则节点: " ++ message
  | .referenceCycle chain => "规则引用成环: " ++ " -> ".intercalate chain
  | .tooDeep limit => "条件树超过最大深度 " ++ toString limit
  | .unreadable path fault => "读取规则文件失败: " ++ path ++ ": " ++ fault.message
  | .badJson error => "JSON 序列化错误: " ++ error.message

end Failure

end RuleTree
