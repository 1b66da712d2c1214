import TemplateServico.Interaction.Program
import TemplateServico.Interaction.Alike
import TemplateServico.Interaction.Pool
import TemplateServico.Interaction.Origin
import TemplateServico.Interaction.Phase
import TemplateServico.Interaction.Refine
import TemplateServico.Interaction.Progress
import TemplateServico.Interaction.Linear
import TemplateServico.Interaction.Sites
import TemplateServico.Text
import TemplateServico.Json
import TemplateServico.Http
import TemplateServico.Fetch
import TemplateServico.Config
import TemplateServico.Origins
import TemplateServico.Bindings
import TemplateServico.Load
import TemplateServico.Agreement
import TemplateServico.Models
import TemplateServico.Error
import TemplateServico.Overwrite
import TemplateServico.Documents
import TemplateServico.Auth.Jsonwebtoken
import TemplateServico.Auth.JwksCache
import TemplateServico.Auth.Recovery
import TemplateServico.Auth.Race
import TemplateServico.Relational
import TemplateServico.Postgres
import TemplateServico.State
import TemplateServico.Auth.Middleware
import TemplateServico.Auth.RegisteredClaims
import TemplateServico.Security
import TemplateServico.Handlers
import TemplateServico.Conflict
import TemplateServico.Routes
import TemplateServico.Cors
import TemplateServico.Preflight
import TemplateServico.Startup
import TemplateServico.Responses
import TemplateServico.Disclosure
import TemplateServico.Service
import TemplateServico.Gate
import TemplateServico.KeyDocuments
import TemplateServico.SingleStatement
import TemplateServico.Connections
import TemplateServico.Completion
import TemplateServico.Telemetry
import TemplateServico.Main
import TemplateServico.Process
import TemplateServico.Deployment
import TemplateServico.Creation
import TemplateServico.Users
import TemplateServico.Linearizability
import TemplateServico.Authorship
import TemplateServico.OpenApi
import TemplateServico.RedisCache
import TemplateServico.Metrics
import TemplateServico.Instances
import TemplateServico.CrossOrigin
import TemplateServico.CrossSite
import TemplateServico.KeyPinning
import TemplateServico.Storage
