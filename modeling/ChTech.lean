import ChTech.Foundation.FixedWindow
import ChTech.RateLimit.Limiter
import ChTech.RateLimit.Windows
import ChTech.RateLimit.Lockout
import ChTech.Domain.ValueObjects
import ChTech.Foundation.Table
import ChTech.Core.Security
import ChTech.Domain.RefreshToken
import ChTech.Domain.User
import ChTech.Infrastructure.RefreshTokenRepository
import ChTech.Auth.Machine
import ChTech.Auth.Transitions
import ChTech.Auth.Observations
import ChTech.Auth.Rotation
import ChTech.Auth.Sessions
import ChTech.Auth.Logout
import ChTech.Auth.Revocation
import ChTech.Auth.Purge
import ChTech.Auth.Failures
import ChTech.Db.Types
import ChTech.Foundation.Query
import ChTech.Content.Fields
import ChTech.Domain.Enums
import ChTech.Content.Repository
import ChTech.Content.Technology
import ChTech.Content.Alliances
import ChTech.Content.Offering
import ChTech.Content.People
import ChTech.Content.Tagged
import ChTech.Content.Article
import ChTech.Content.Project
import ChTech.Content.Database
import ChTech.Content.Readable
import ChTech.Content.StoredRows
import ChTech.Content.Storable
import ChTech.Content.Payloads
import ChTech.Content.Visibility
import ChTech.Content.ProjectList
import ChTech.Foundation.Merge
import ChTech.Content.Stale
import ChTech.Content.Singleton
import ChTech.Content.Conversions
import ChTech.Content.Slugged
import ChTech.Content.SlugUpdates
import ChTech.Content.Deletes
import ChTech.Content.Linked
import ChTech.Content.SlugReports
import ChTech.Content.References
import ChTech.Content.Replace
import ChTech.Content.InMemory
import ChTech.Content.Mirrors
import ChTech.Content.Fakes
import ChTech.Foundation.Coupling
import ChTech.Auth.Adapters
import ChTech.Auth.Oracle
import ChTech.Auth.Throttle
import ChTech.Domain.Urls
import ChTech.Foundation.Calendar
import ChTech.Db.Calendar
import ChTech.Infrastructure.TokenDates
import ChTech.Foundation.CaseSearch
import ChTech.Content.Search
import ChTech.Foundation.Paging
import ChTech.Content.Paging
import ChTech.Content.TechnologyNames
import ChTech.Content.DeleteFrames
import ChTech.Content.Updates
import ChTech.Content.ProjectEcho
import ChTech.Content.ArticleAnswers
import ChTech.Content.Timestamps
import ChTech.Foundation.Ensure
import ChTech.Db.Seed
import ChTech.Foundation.Regex
import ChTech.Foundation.Casing
import ChTech.Domain.Slugs
import ChTech.Domain.Emails
import ChTech.Infrastructure.EmailRows
import ChTech.Foundation.Lens
import ChTech.Content.Saves
import ChTech.Application.UseCases
import ChTech.Application.Requests
import ChTech.Application.Integrity
import ChTech.Application.Answers
import ChTech.Application.Frames
import ChTech.Application.Drafts
import ChTech.Foundation.PyInt
import ChTech.Core.Uuid
import ChTech.Api.Deps
import ChTech.Auth.AccessTokens
import ChTech.Foundation.Earlier
import ChTech.Auth.Credentials
import ChTech.Application.Reading
import ChTech.Api.Requests
import ChTech.Api.Server
import ChTech.Api.Transitions
import ChTech.Api.Exchanges
import ChTech.Auth.Refusals
import ChTech.Api.Executions
import ChTech.Api.Authorized
import ChTech.Api.Notifications
import ChTech.Api.Limits
import ChTech.Api.Disclosures
import ChTech.Api.Visitors
import ChTech.Api.Answers
import ChTech.Foundation.Potential
import ChTech.RateLimit.Progress
import ChTech.Auth.Progress
import ChTech.Api.Progress
import ChTech.Foundation.Json
import ChTech.Core.Logging
