import SpritexPay.Checkout
import SpritexPay.Textual.Format

/-! The hosted checkout page: what it shows of a charge, and the page itself as
one self-contained HTML text. -/

set_option autoImplicit false

namespace SpritexPay

open Binary64 Relational Textual

/-! ## Receiving numbers -/

structure RegisterGateway where
  gateway : String
  label : Option String
  accountMsisdn : Option String

structure GatewayConfig where
  id : String
  gateway : String
  label : Option String
  accountMsisdn : Option String
  enabled : Int
  createdAt : Timestamp
  deriving DecidableEq

instance : Indexed GatewayConfig := .single GatewayConfig.id

def GatewayConfig.register (uuid : String) (req : RegisterGateway) (now : Timestamp)
    (gateways : Table GatewayConfig) : Except SqlError (GatewayConfig × Table GatewayConfig) :=
  let row : GatewayConfig := ⟨"gw_" ++ uuid, req.gateway, req.label, req.accountMsisdn, 1, now⟩
  match gateways.insert? row with
  | none => .error .uniqueViolation
  | some gateways => .ok (row, gateways)

structure Receiver where
  gateway : String
  label : Option String
  accountMsisdn : Option String
  deriving DecidableEq

/-- What the page shows of a charge. No secrets and no webhook URL. -/
structure PublicCharge where
  payRef : String
  amountMinor : Int64
  currency : String
  status : String
  gateway : Option String
  returnUrl : Option String
  receivers : List Receiver
  deriving DecidableEq

/-- The receivers are those enabled, by gateway. -/
def Checkout.getPublicCharge (payRef : String) (charges : Table Charge)
    (gateways : Table GatewayConfig) : Except CheckoutError PublicCharge :=
  match charges.find? (·.payRef == some payRef) with
  | none => .error .notFound
  | some charge =>
      let enabled := gateways.rows.filter (·.enabled == 1)
      let sorted := enabled.mergeSort fun left right => decide (left.gateway ≤ right.gateway)
      .ok {
        payRef, amountMinor := charge.amountMinor, currency := charge.currency
        status := charge.status.text, gateway := charge.gateway, returnUrl := charge.returnUrl
        receivers := sorted.map fun config =>
          ⟨config.gateway, config.label, config.accountMsisdn⟩ }

/-! ## The page -/

namespace CheckoutPage

def esc (text : String) : String :=
  replace '\x27' "&#39;" (replace '\"' "&quot;" (replace '>' "&gt;" (replace '<' "&lt;"
    (replace '&' "&amp;" text))))

/-- Shared page chrome. No external assets. -/
def chrome (title inner : String) : List Piece :=
  [.lit "<!doctype html>
<html lang=\"en\"><head>
<meta charset=\"utf-8\"/>
<meta name=\"viewport\" content=\"width=device-width, initial-scale=1\"/>
<title>",
    .arg (esc title),
    .lit " — SpritexAI Pay</title>
<style>
  :root \x7b --accent:#6366f1; --ink:#111827; --muted:#6b7280; --line:#e5e7eb; --bg:#f4f5f7; \x7d
  * \x7b box-sizing:border-box; \x7d
  body \x7b margin:0; background:var(--bg); color:var(--ink);
    font-family:-apple-system,BlinkMacSystemFont,'Segoe UI',Roboto,sans-serif;
    display:flex; min-height:100vh; align-items:center; justify-content:center; padding:16px; \x7d
  .card \x7b background:#fff; width:100%; max-width:420px; border-radius:16px; padding:28px;
    box-shadow:0 1px 3px rgba(0,0,0,.06), 0 8px 24px rgba(0,0,0,.05); \x7d
  h1 \x7b font-size:20px; margin:0 0 6px; \x7d
  .muted \x7b color:var(--muted); font-size:14px; line-height:1.5; \x7d
  .small \x7b font-size:12px; \x7d
  .amount \x7b font-size:40px; font-weight:700; letter-spacing:-.02em; \x7d
  .amount .sym \x7b color:var(--muted); font-weight:600; margin-right:2px; \x7d
  .label \x7b font-size:12px; text-transform:uppercase; letter-spacing:.04em; color:var(--muted);
    margin:22px 0 10px; \x7d
  .gateways \x7b display:flex; flex-direction:column; gap:10px; \x7d
  .gw \x7b display:flex; justify-content:space-between; align-items:center; width:100%;
    background:#fff; border:1.5px solid var(--line); border-radius:12px; padding:14px 16px;
    cursor:pointer; font-size:15px; transition:border-color .15s, background .15s; \x7d
  .gw:hover \x7b border-color:var(--accent); background:#fafaff; \x7d
  .gw-name \x7b font-weight:600; \x7d
  .gw-num \x7b color:var(--muted); font-family:ui-monospace,monospace; font-size:13px; \x7d
  .steps \x7b margin-top:18px; display:flex; flex-direction:column; gap:14px; \x7d
  .step \x7b display:flex; gap:10px; align-items:flex-start; font-size:14px; line-height:1.5; \x7d
  .step span \x7b flex:0 0 22px; height:22px; border-radius:50%; background:#eef2ff; color:var(--accent);
    font-size:12px; font-weight:700; display:inline-flex; align-items:center; justify-content:center; \x7d
  .number-box \x7b display:flex; align-items:center; gap:8px; background:#f9fafb; border:1px solid var(--line);
    border-radius:10px; padding:12px 14px; \x7d
  .number \x7b font-family:ui-monospace,monospace; font-size:18px; font-weight:600; flex:1; \x7d
  .copy, .submit \x7b background:var(--accent); color:#fff; border:0; border-radius:8px;
    padding:8px 14px; font-size:13px; font-weight:600; cursor:pointer; \x7d
  .waiting \x7b display:flex; align-items:center; gap:10px; margin-top:22px; font-size:14px; color:var(--muted); \x7d
  .spinner \x7b width:16px; height:16px; border:2px solid var(--line); border-top-color:var(--accent);
    border-radius:50%; animation:spin 1s linear infinite; \x7d
  @keyframes spin \x7b to \x7b transform:rotate(360deg); \x7d \x7d
  .manual \x7b margin-top:20px; border-top:1px solid var(--line); padding-top:16px; \x7d
  .manual summary \x7b cursor:pointer; font-size:14px; color:var(--accent); \x7d
  .manual input \x7b display:block; width:100%; margin-top:10px; padding:11px 13px;
    border:1px solid var(--line); border-radius:9px; font-size:14px; \x7d
  .manual .submit \x7b margin-top:10px; \x7d
  .success \x7b font-size:44px; color:#16a34a; text-align:center; \x7d
  #done \x7b text-align:center; \x7d
  .brand \x7b text-align:center; margin-top:18px; color:var(--muted); font-size:12px; \x7d
</style></head>
<body>
  <div>",
    .arg inner,
    .lit "
    <div class=\"brand\">Secured by <b>SpritexAI Pay</b></div>
  </div>
</body></html>"]

def wrap (title inner : String) : String := format (chrome title inner)

def notFound : String :=
  wrap "Payment not found" "<div class=\"card\"><h1>Payment link invalid</h1>
        <p class=\"muted\">This checkout link is unknown or has expired. Please return to the store and try again.</p></div>"

def gatewayName (gateway : String) : String :=
  if gateway = "bkash" then "bKash" else if gateway = "nagad" then "Nagad" else gateway

/-- The option of one receiver, which is named and numbered. -/
def buttonPieces (receiver : Receiver) : List Piece :=
  let number := receiver.accountMsisdn.getD ""
  [.lit "<button class=\"gw\" data-gateway=\"",
    .arg (esc receiver.gateway),
    .lit "\" data-number=\"",
    .arg (esc number),
    .lit "\">
                 <span class=\"gw-name\">",
    .arg (gatewayName receiver.gateway),
    .lit "</span>
                 <span class=\"gw-num\">",
    .arg (esc number),
    .lit "</span>
               </button>"]

def button (receiver : Receiver) : String := format (buttonPieces receiver)

def unconfigured : String :=
  "<p class=\"muted\">The merchant has not configured a receiving number yet.</p>"

def options (receivers : List Receiver) : String :=
  let buttons := String.join (receivers.map button)
  if buttons.isEmpty then unconfigured else buttons

def amount (view : PublicCharge) : String := ((F64.ofI64 view.amountMinor).unscale 100).toFixed2

def symbol (view : PublicCharge) : String := if view.currency = "BDT" then "৳" else ""

def bodyPieces (unicode : UnicodeTables) (view : PublicCharge) : List Piece :=
  [.lit "<div class=\"card\">
      <div class=\"amount\"><span class=\"sym\">",
    .arg (symbol view),
    .lit "</span>",
    .arg (amount view),
    .lit "</div>
      <p class=\"muted\">Complete your payment to continue.</p>

      <div id=\"pick\">
        <div class=\"label\">Pay with</div>
        <div class=\"gateways\">",
    .arg (options view.receivers),
    .lit "</div>
      </div>

      <div id=\"instructions\" style=\"display:none\">
        <div class=\"steps\">
          <div class=\"step\"><span>1</span> Open your <b id=\"gw-label\"></b> app and choose <b>Send Money</b>.</div>
          <div class=\"step\"><span>2</span> Send exactly <b>",
    .arg (symbol view),
    .arg (amount view),
    .lit "</b> to this number:</div>
          <div class=\"number-box\">
            <span id=\"recv-number\" class=\"number\"></span>
            <button id=\"copy\" class=\"copy\">Copy</button>
          </div>
          <div class=\"step\"><span>3</span> Keep this page open — we confirm your payment automatically.</div>
        </div>

        <div class=\"waiting\">
          <span class=\"spinner\"></span>
          <span id=\"status-text\">Waiting for your payment…</span>
        </div>

        <details class=\"manual\">
          <summary>Already paid? Enter your Transaction ID</summary>
          <input id=\"trx\" placeholder=\"TrxID (e.g. BGL7AH92KX)\" />
          <input id=\"sender\" placeholder=\"Your number (optional)\" />
          <button id=\"submit-trx\" class=\"submit\">Submit</button>
          <p id=\"manual-note\" class=\"muted small\"></p>
        </details>
      </div>

      <div id=\"done\" style=\"display:none\">
        <div class=\"success\">✓</div>
        <h1>Payment confirmed</h1>
        <p class=\"muted\">Redirecting you back…</p>
      </div>
    </div>

    <script>
      const payRef = ",
    .arg (debug unicode view.payRef),
    .lit ";
      const returnUrl = ",
    .arg (debug unicode (view.returnUrl.getD "")),
    .lit ";
      let selected = null;

      document.querySelectorAll('.gw').forEach(btn => \x7b
        btn.addEventListener('click', () => \x7b
          selected = btn.dataset.gateway;
          document.getElementById('gw-label').textContent = btn.querySelector('.gw-name').textContent;
          document.getElementById('recv-number').textContent = btn.dataset.number || '—';
          document.getElementById('pick').style.display = 'none';
          document.getElementById('instructions').style.display = 'block';
          fetch('/v1/checkout/' + payRef + '/select', \x7b
            method: 'POST', headers: \x7b'content-type':'application/json'\x7d,
            body: JSON.stringify(\x7bgateway: selected\x7d)
          \x7d).catch(()=>\x7b\x7d);
        \x7d);
      \x7d);

      const copyBtn = document.getElementById('copy');
      if (copyBtn) copyBtn.addEventListener('click', () => \x7b
        const n = document.getElementById('recv-number').textContent;
        navigator.clipboard.writeText(n).then(() => \x7b
          copyBtn.textContent = 'Copied';
          setTimeout(() => copyBtn.textContent = 'Copy', 1500);
        \x7d);
      \x7d);

      const submitTrx = document.getElementById('submit-trx');
      if (submitTrx) submitTrx.addEventListener('click', () => \x7b
        const trx = document.getElementById('trx').value.trim();
        if (!trx) return;
        fetch('/v1/checkout/' + payRef + '/claim', \x7b
          method: 'POST', headers: \x7b'content-type':'application/json'\x7d,
          body: JSON.stringify(\x7btrx_id: trx, sender: document.getElementById('sender').value.trim() || null\x7d)
        \x7d).then(() => \x7b
          document.getElementById('manual-note').textContent =
            'Thanks — we recorded it. Confirmation still completes automatically once your SMS arrives.';
        \x7d).catch(()=>\x7b\x7d);
      \x7d);

      function finish() \x7b
        document.getElementById('instructions').style.display = 'none';
        document.getElementById('pick').style.display = 'none';
        document.getElementById('done').style.display = 'block';
        if (returnUrl && returnUrl !== '--') setTimeout(() => location.href = returnUrl, 1800);
      \x7d

      // Poll until the SMS-driven settlement flips this charge to paid.
      async function poll() \x7b
        try \x7b
          const r = await fetch('/v1/checkout/' + payRef);
          if (r.ok) \x7b
            const d = await r.json();
            if (d.status === 'paid') \x7b finish(); return; \x7d
          \x7d
        \x7d catch (e) \x7b\x7d
        setTimeout(poll, 3000);
      \x7d
      poll();
    </script>"]

def body (unicode : UnicodeTables) (view : PublicCharge) : String :=
  format (bodyPieces unicode view)

def render (unicode : UnicodeTables) (view : PublicCharge) : String :=
  wrap "Checkout" (body unicode view)

end CheckoutPage

/-- `GET /pay/:pay_ref`, the status and the page. -/
def Http.checkoutPage (unicode : UnicodeTables) (payRef : String) (charges : Table Charge)
    (gateways : Table GatewayConfig) : Nat × String :=
  match Checkout.getPublicCharge payRef charges gateways with
  | .ok view => (200, CheckoutPage.render unicode view)
  | .error .notFound => (404, CheckoutPage.notFound)
  | .error _ => (500, "internal error")

end SpritexPay
