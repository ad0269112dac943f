import AiOffice.Domain.Agent

namespace AiOffice.Application.SyncAgentDefinitions

open Domain

/-- The `role` and `agent` tables. -/
structure AgentTables where
  roles : List Role
  agents : List Agent

def saveRole (tables : AgentTables) (role : Role) : AgentTables :=
  if tables.roles.any fun stored => stored.projectId = role.projectId && stored.key = role.key then
    { tables with roles := tables.roles.map fun stored =>
        if stored.projectId = role.projectId ∧ stored.key = role.key then
          { role with id := stored.id, createdAt := stored.createdAt }
        else stored }
  else
    { tables with roles := tables.roles ++ [role] }

/-- Insert an agent, or update the one of its project with its name. The role must be of the project. -/
def saveAgent (tables : AgentTables) (agent : Agent) : Except Thrown AgentTables :=
  if !tables.roles.any fun role => role.id = agent.roleId && role.projectId = agent.projectId then
    .error ⟨.storageError, "agent role must belong to the same project"⟩
  else if tables.agents.any fun stored => stored.projectId = agent.projectId && stored.name = agent.name then
    .ok { tables with agents := tables.agents.map fun stored =>
        if stored.projectId = agent.projectId ∧ stored.name = agent.name then
          { stored with roleId := agent.roleId, enabled := agent.enabled, updatedAt := agent.updatedAt }
        else stored }
  else if tables.agents.any fun stored => stored.id = agent.id then
    .error ⟨.storageError, "UNIQUE constraint failed: agent.id"⟩
  else
    .ok { tables with agents := tables.agents ++ [agent] }

structure LoadedAgentDefinition where
  definition : AgentDefinition
  sourcePath : String

/-- Parse the definitions of a directory; agent ids and role keys must be distinct. -/
def load (agentIds roleKeys : List String) :
    List LoadedAgentDefinition → Except Thrown (List LoadedAgentDefinition)
  | [] => .ok []
  | file :: files => do
    let definition ← parseAgentDefinition file.definition file.sourcePath
    if definition.id ∈ agentIds then
      .error (invalidAgentDefinition file.sourcePath s!"duplicate agent id {definition.id}")
    else if definition.roleKey ∈ roleKeys then
      .error (invalidAgentDefinition file.sourcePath s!"duplicate role_key {definition.roleKey}")
    else
      let loaded ← load (definition.id :: agentIds) (definition.roleKey :: roleKeys) files
      return { file with definition } :: loaded

def syncDefinition (projectId : String) (now : Date) (tables : AgentTables) (item : LoadedAgentDefinition) :
    Except Thrown AgentTables := do
  let definition := item.definition
  let roleId := s!"role:{projectId}:{definition.roleKey}"
  let role ← Role.create {
    id := roleId
    projectId
    key := definition.roleKey
    name := definition.role
    version := definition.version
    limits := definition.limits
    guidanceText := some (definition.roleGuidance.getD "")
    guidanceVersion := some definition.version
    createdAt := now
    updatedAt := now }
  saveAgent (saveRole tables role) {
    id := s!"agent:{projectId}:{definition.id}"
    projectId
    roleId
    name := definition.id
    enabled := true
    createdAt := now
    updatedAt := now }

/-- Synchronise the loaded definitions with the agents of a project, in one transaction. -/
def execute (projectId : String) (now : Date) (loaded : List LoadedAgentDefinition) (tables : AgentTables) :
    Except Thrown AgentTables :=
  loaded.foldlM (syncDefinition projectId now) tables

end AiOffice.Application.SyncAgentDefinitions
