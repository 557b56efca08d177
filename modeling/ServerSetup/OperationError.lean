import ServerSetup.Fault
import ServerSetup.RunState

/-!
# Errors of the operations

The causes for which an operation of the tool fails, and the one place where they are put into
words. What a system service said is kept beside the words and does not enter them.
-/

namespace ServerSetup

/-- What could not be accessed. -/
inductive Access
  /-- The list of the registered services. -/
  | serviceList
  /-- The directory of the web server's scripts. -/
  | scriptsDirectory
deriving DecidableEq

/-- What is wrong with a record. -/
inductive RecordFlaw
  /-- A service record names no executable. -/
  | noExecutable (record : String)
  /-- A rollback file does not hold a state. -/
  | unreadableState (path : String)
  /-- A rollback file was written in a later format. -/
  | laterFormat (path : String) (version : Nat)
deriving DecidableEq

/-- What is wrong with the configuration. -/
inductive SettingsFlaw
  /-- A configuration file does not hold a configuration. -/
  | unreadable (path : String)
  /-- There is no directory for the rollback files. -/
  | noStateDirectory (why : Fault)
deriving DecidableEq

/-- The phases of a service between its registered and its unregistered state. -/
inductive Transition
  | installing
  | uninstalling
deriving DecidableEq

/-- Why an operation failed. -/
inductive OperationError
  | accessDenied (what : Access) (why : Fault)
  | malformedRecord (flaw : RecordFlaw)
  | io (path : String) (kind : IoKind)
  | transaction (service : String) (why : Fault)
  | stateNotFound (service : String)
  | alreadySelected (current requested : String)
  | recordChange (service : String) (why : Fault)
  | serviceControl (service : String) (why : Fault)
  | serviceNotFound (service : String)
  | transitionTimeout (service : String) (target : RunState)
  | busy (service : String) (phase : Transition)
  | cancelled (service : String)
  | settings (flaw : SettingsFlaw)
deriving DecidableEq

/-- What the access was for. -/
def Access.message : Access → String
  | serviceList => "列出服务注册表失败"
  | scriptsDirectory => "读取 IIS scripts 目录失败"

/-- The words for a flaw of a record. -/
def RecordFlaw.message : RecordFlaw → String
  | noExecutable record => "ImagePath 中没有 .exe: " ++ record
  | unreadableState path => "回滚状态文件 " ++ path ++ " 解析失败"
  | laterFormat path version =>
    "回滚状态文件 " ++ path ++ " 版本 " ++ version.repr ++ " 高于支持的版本 1"

/-- The words of a fault, the reasons separated by colons. -/
def Fault.message (f : Fault) : String :=
  String.intercalate ": " (f.reasons.filterMap fun
    | .said text => some text
    | .io _ => none)

/-- The words for a flaw of the configuration. -/
def SettingsFlaw.message : SettingsFlaw → String
  | unreadable path => "解析 " ++ path ++ " 失败"
  | noStateDirectory why => why.message

/-- The word for a phase. -/
def Transition.label : Transition → String
  | installing => "注册"
  | uninstalling => "注销"

/-- The words for an error. -/
def OperationError.message : OperationError → String
  | accessDenied what _ => "访问被拒绝: " ++ what.message
  | malformedRecord flaw => "记录格式错误: " ++ flaw.message
  | io path _ => "IO 失败: " ++ path
  | transaction service _ => "服务事务失败: " ++ service
  | stateNotFound service => "未找到服务回滚状态: " ++ service
  | alreadySelected current requested =>
    "已选定当前安装 " ++ current ++ "，不可再次选择 " ++ requested
  | recordChange service _ => "改写服务 ImagePath 失败: " ++ service
  | serviceControl service _ => "服务控制失败: " ++ service
  | serviceNotFound service => "服务不存在: " ++ service
  | transitionTimeout service target =>
    "等待服务 " ++ service ++ " 进入 " ++ target.name ++ " 状态超时"
  | busy service phase => "服务正在" ++ phase.label ++ "，拒绝并发操作: " ++ service
  | cancelled service => "操作已取消: " ++ service
  | settings flaw => "配置错误: " ++ flaw.message

end ServerSetup
