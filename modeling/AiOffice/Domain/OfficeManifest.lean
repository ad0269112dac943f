import Mathlib.Tactic.Common

namespace AiOffice.Domain

inductive PipelineEnforcement
  | guidance
  | enforced
  deriving DecidableEq

structure OfficePipelineStage where
  id : String
  name : String
  roleId : String
  objective : String
  checks : List String
  requiresApproval : Bool
  requiresIndependentApproval : Option Bool
  capabilities : Option (List String)
  requiresDifferentAgentFrom : Option (List String)
  deriving DecidableEq

structure OfficePipeline where
  id : String
  name : String
  description : String
  defaultFor : List String
  enforcement : Option PipelineEnforcement
  stages : List OfficePipelineStage
  deriving DecidableEq

structure OfficeRole where
  id : String
  title : String
  purpose : String
  responsibilities : List String
  deriving DecidableEq

structure VirtualOfficeModel where
  name : String
  roles : List OfficeRole
  deriving DecidableEq

structure OfficeProjectModel where
  mission : String
  goals : List String
  constraints : List String
  preferences : List String
  permissionPreferences : List String
  deriving DecidableEq

structure OfficeManifest where
  project : OfficeProjectModel
  office : VirtualOfficeModel
  pipelines : List OfficePipeline
  deriving DecidableEq

def OfficePipelineStage.separatedFrom (stage : OfficePipelineStage) : List String :=
  stage.requiresDifferentAgentFrom.getD []

end AiOffice.Domain
