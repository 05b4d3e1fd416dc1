import AgentIam.Basic
import AgentIam.Utf8
import AgentIam.RateLimit.SlidingWindow
import AgentIam.RateLimit.Counters
import AgentIam.Audit.HashChain
import AgentIam.Audit.Pipeline
import AgentIam.Audit.Logger
import AgentIam.Identity.Queries
import AgentIam.Identity.Store
import AgentIam.Identity.Chain
import AgentIam.Identity.Forest
import AgentIam.Identity.Bounds
import AgentIam.Identity.Listing
import AgentIam.Auth.Jwt
import AgentIam.Auth.Logout
import AgentIam.Auth.Sessions
import AgentIam.Auth.Login
import AgentIam.Auth.Datalog
import AgentIam.Auth.Biscuit
import AgentIam.Authz.Cedar
import AgentIam.Authz.Handlers
import AgentIam.Authz.Validation
import AgentIam.RateLimit.Middleware
import AgentIam.Authz.Middleware
